import SdCard.Proofs.Session.History
import SdCard.Proofs.Session.Storage

/-!
# A card seen as a store of sectors

Seen from a session, a card is a store: sectors by their wire addresses. `Faithful` says what each
operation does to it, and `carryOut` lets operations follow each other in any order, whatever the
card is set up to do and wherever the bus breaks.

The invariant behind it is that a card is at rest between operations, so that nothing of an
operation that failed is left over for the next one.

* `faithful_run`: one operation on a card at rest;
* `store_refinement`: every operation after every sequence of operations.
-/

namespace SdCard

/-- Where two sectors have one wire address, it is one that no longer fits. -/
theorem blockAddress_eq_iff {capacity : Capacity} {lba other : UInt32} :
    blockAddress capacity lba = blockAddress capacity other ↔
      lba = other ∨ (capacity = .standard ∧
        UInt32.size ≤ lba.toNat * sectorSize ∧ UInt32.size ≤ other.toNat * sectorSize) := by
  cases capacity with
  | high => simp [blockAddress]
  | standard =>
    have hlba := lba.toNat_lt
    have hother := other.toNat_lt
    have hsize : (UInt32.ofNat sectorSize).toNat = 512 := rfl
    -- a product that fits is a multiple of 512, and the largest word is none
    simp only [blockAddress, ← UInt32.toNat_inj, toNat_saturatingMul, hsize, UInt32.size, true_and]
    unfold sectorSize
    omega

namespace CardModel

/-- Nothing is left of the last transaction, whatever the card holds. -/
def Rests (card : CardModel) : Prop := AtRest card.store card.written card

theorem AtRest.rests {store : SectorStore} {written : Array (UInt32 × Sector)} {card : CardModel}
    (h : AtRest store written card) : card.Rests :=
  ⟨⟨rfl, rfl, h.fixedResponses⟩, h.link⟩

end CardModel

namespace Session

open CardModel

variable {ε σ : Type} {fault : ε}

/-- One store comes from the other by putting data at an address, with zeros behind it up to the end
of the sector. -/
def Puts (store : SectorStore) (address : UInt32) (data : List UInt8) (store' : SectorStore) :
    Prop :=
  (store'.get address).toList = data ++ List.replicate (sectorSize - data.length) 0 ∧
  ∀ other, other ≠ address → store'.get other = store.get other

theorem puts_insert (store : SectorStore) (address : UInt32) {data : List UInt8}
    (h : data.length ≤ sectorSize) :
    Puts store address data (store.insert address (.ofList sectorSize data)) := by
  constructor
  · rw [SectorStore.get_insert, if_pos rfl, Bytes.toList_ofList, List.take_of_length_le h]
  · intro other hother
    rw [SectorStore.get_insert, if_neg hother]

/-- What an operation does to the card as a store, and what it says of it. -/
structure Faithful (call : Call ε) (card card' : CardModel) : Prop where
  /-- A write that succeeds puts its data at its address, and the card receives one block. -/
  written : ∀ lba data answer, call.request = .writeBlock lba data → call.result = .ok answer →
    ∃ mode, call.before.state = .ready mode ∧ data.length ≤ sectorSize ∧
      Puts card.store (blockAddress mode.capacity lba) data card'.store ∧
      card'.written = card.written.push (blockAddress mode.capacity lba,
        card'.store.get (blockAddress mode.capacity lba))
  /-- Any other write does so or leaves the store as it was. -/
  attempted : ∀ lba data error, call.request = .writeBlock lba data →
    call.result = .error error → card'.store = card.store ∨
      ∃ mode, call.before.state = .ready mode ∧ data.length ≤ sectorSize ∧
        Puts card.store (blockAddress mode.capacity lba) data card'.store
  /-- No other operation changes the store, and the card receives no block. -/
  spared : (∀ lba data, call.request ≠ .writeBlock lba data) →
    card'.store = card.store ∧ card'.written = card.written
  /-- A read that succeeds gives the bytes that were asked for. -/
  range : ∀ lba offset buffer answer, call.request = .readRange lba offset buffer →
    call.result = .ok answer → ∃ mode bytes, call.before.state = .ready mode ∧
      answer = .bytes bytes ∧ offset + buffer.size ≤ sectorSize ∧
      bytes.toList = ((card.store.get (blockAddress mode.capacity lba)).toList.drop offset).take
        buffer.size
  /-- A read of a whole sector gives the sector. -/
  block : ∀ lba answer, call.request = .readBlock lba → call.result = .ok answer →
    ∃ mode, call.before.state = .ready mode ∧
      answer = .bytes (card.store.get (blockAddress mode.capacity lba)).toArray

/-- Operations one after the other on a session and a bus, and what they lead to. -/
def carryOut (bus : Bus ε σ) : List Request → Session → σ → Session × σ
  | [], session, s => (session, s)
  | request :: requests, session, s =>
    carryOut bus requests (Call.run bus request session s).1.after
      (Call.run bus request session s).2

/-! ## One operation -/

@[simp] theorem Call.request_run (bus : Bus ε σ) (request : Request) (session : Session) (s : σ) :
    (Call.run bus request session s).1.request = request := rfl

section Step

variable {request : Request} {session : Session} {card : CardModel}

/-- What an operation other than a write has to say of the store. -/
theorem faithful_of_spared {call : Call ε} {card' : CardModel}
    (hwrite : ∀ lba data, call.request ≠ .writeBlock lba data)
    (hafter : AtRest card.store card.written card')
    (hrange : ∀ lba offset buffer answer, call.request = .readRange lba offset buffer →
      call.result = .ok answer → ∃ mode bytes, call.before.state = .ready mode ∧
        answer = .bytes bytes ∧ offset + buffer.size ≤ sectorSize ∧
        bytes.toList = ((card.store.get (blockAddress mode.capacity lba)).toList.drop offset).take
          buffer.size)
    (hblock : ∀ lba answer, call.request = .readBlock lba → call.result = .ok answer →
      ∃ mode, call.before.state = .ready mode ∧
        answer = .bytes (card.store.get (blockAddress mode.capacity lba)).toArray) :
    Faithful call card card' where
  written lba data _ hrequest := absurd hrequest (hwrite lba data)
  attempted lba data _ hrequest := absurd hrequest (hwrite lba data)
  spared _ := ⟨hafter.store, hafter.written⟩
  range := hrange
  block := hblock

/-- What a write has to say of the store. -/
theorem faithful_of_write {call : Call ε} {card' : CardModel} {lba : UInt32} {data : List UInt8}
    (hrequest : call.request = .writeBlock lba data)
    (hok : ∀ answer, call.result = .ok answer →
      ∃ mode, call.before.state = .ready mode ∧ data.length ≤ sectorSize ∧
        Puts card.store (blockAddress mode.capacity lba) data card'.store ∧
        card'.written = card.written.push (blockAddress mode.capacity lba,
          card'.store.get (blockAddress mode.capacity lba)))
    (herror : ∀ error, call.result = .error error → card'.store = card.store ∨
      ∃ mode, call.before.state = .ready mode ∧ data.length ≤ sectorSize ∧
        Puts card.store (blockAddress mode.capacity lba) data card'.store) :
    Faithful call card card' where
  written lba' data' answer hwrite := by
    rw [hrequest] at hwrite
    cases hwrite
    exact hok answer
  attempted lba' data' error hwrite := by
    rw [hrequest] at hwrite
    cases hwrite
    exact herror error
  spared hwrite := absurd hrequest (hwrite lba data)
  range lba' offset buffer answer hread := by
    rw [hrequest] at hread
    cases hread
  block lba' answer hread := by
    rw [hrequest] at hread
    cases hread

/-- An operation that does no harm and is no read says nothing of the store. -/
theorem faithful_of_harmless (hcard : Rests card)
    (h : Harmless fault (perform request : Action ε Session Answer))
    (hwrite : ∀ lba data, request ≠ .writeBlock lba data)
    (hrange : ∀ lba offset buffer, request ≠ .readRange lba offset buffer)
    (hblock : ∀ lba, request ≠ .readBlock lba) :
    Faithful (Call.run (bus fault) request session card).1 card
        (Call.run (bus fault) request session card).2 ∧
      Rests (Call.run (bus fault) request session card).2 := by
  have hafter : AtRest card.store card.written (Call.run (bus fault) request session card).2 :=
    ending_both.mp (h card.store card.written session card hcard)
  refine ⟨faithful_of_spared hwrite hafter ?_ ?_, hafter.rests⟩
  · exact fun lba offset buffer _ hrequest => absurd hrequest (hrange lba offset buffer)
  · exact fun lba _ hrequest => absurd hrequest (hblock lba)

theorem faithful_readRange (hcard : Rests card) (lba : UInt32) (offset : Nat)
    (buffer : Array UInt8) :
    Faithful (Call.run (bus fault) (.readRange lba offset buffer) session card).1 card
        (Call.run (bus fault) (.readRange lba offset buffer) session card).2 ∧
      Rests (Call.run (bus fault) (.readRange lba offset buffer) session card).2 := by
  have hperform : Action.Leads (bus fault)
      (fun s w => s = session ∧ AtRest card.store card.written w)
      (perform (.readRange lba offset buffer) : Action ε Session Answer)
      (fun answer _ w => (∃ mode bytes, session.state = .ready mode ∧ answer = .bytes bytes ∧
        offset + buffer.size ≤ sectorSize ∧ bytes.toList =
          ((card.store.get (blockAddress mode.capacity lba)).toList.drop offset).take
            buffer.size) ∧ AtRest card.store card.written w)
      (fun _ => AtRest card.store card.written) := by
    refine (leads_readRange lba offset buffer.toVector session).bind fun bytes => ?_
    refine Action.leads_pure fun _ w h => ?_
    obtain ⟨⟨mode, hstate, hin, hbytes⟩, hw⟩ := h
    exact ⟨⟨mode, bytes.toArray, hstate, rfl, hin, hbytes⟩, hw⟩
  obtain ⟨hread, hafter⟩ := ending_and.mp (hperform session card ⟨rfl, hcard⟩)
  refine ⟨faithful_of_spared (fun _ _ h => nomatch h) hafter ?_ ?_, AtRest.rests hafter⟩
  · intro lba' offset' buffer' answer hrequest hanswer
    rw [Call.request_run] at hrequest
    cases hrequest
    exact hread answer hanswer
  · intro lba' answer hrequest
    cases hrequest

theorem faithful_readBlock (hcard : Rests card) (lba : UInt32) :
    Faithful (Call.run (bus fault) (.readBlock lba) session card).1 card
        (Call.run (bus fault) (.readBlock lba) session card).2 ∧
      Rests (Call.run (bus fault) (.readBlock lba) session card).2 := by
  have hperform : Action.Leads (bus fault)
      (fun s w => s = session ∧ AtRest card.store card.written w)
      (perform (.readBlock lba) : Action ε Session Answer)
      (fun answer _ w => (∃ mode, session.state = .ready mode ∧
        answer = .bytes (card.store.get (blockAddress mode.capacity lba)).toArray) ∧
        AtRest card.store card.written w)
      (fun _ => AtRest card.store card.written) := by
    refine (leads_readRange lba 0 (Bytes.zero sectorSize) session).bind fun bytes => ?_
    refine Action.leads_pure fun _ w h => ?_
    obtain ⟨⟨mode, hstate, -, hbytes⟩, hw⟩ := h
    have hsector : bytes = card.store.get (blockAddress mode.capacity lba) := by
      rw [← Vector.toList_inj, hbytes, List.drop_zero, List.take_of_length_le (by simp)]
    exact ⟨⟨mode, hstate, by rw [hsector]⟩, hw⟩
  obtain ⟨hread, hafter⟩ := ending_and.mp (hperform session card ⟨rfl, hcard⟩)
  refine ⟨faithful_of_spared (fun _ _ h => nomatch h) hafter ?_ ?_, AtRest.rests hafter⟩
  · intro lba' offset' buffer' answer hrequest
    cases hrequest
  · intro lba' answer hrequest hanswer
    rw [Call.request_run] at hrequest
    cases hrequest
    exact hread answer hanswer

/-- What a write has to say of the store. -/
theorem faithful_writeBlock (hcard : Rests card) (lba : UInt32) (data : List UInt8) :
    Faithful (Call.run (bus fault) (.writeBlock lba data) session card).1 card
        (Call.run (bus fault) (.writeBlock lba data) session card).2 ∧
      Rests (Call.run (bus fault) (.writeBlock lba data) session card).2 := by
  have hperform : Action.Leads (bus fault)
      (fun s w => s = session ∧ AtRest card.store card.written w)
      (perform (.writeBlock lba data) : Action ε Session Answer)
      (fun _ _ w => ∃ mode, session.state = .ready mode ∧ data.length ≤ sectorSize ∧ AtRest
        (card.store.insert (blockAddress mode.capacity lba) (.ofList sectorSize data))
        (card.written.push (blockAddress mode.capacity lba, .ofList sectorSize data)) w)
      (fun _ w => AtRest card.store card.written w ∨
        ∃ mode, session.state = .ready mode ∧ data.length ≤ sectorSize ∧
          Tried card.store (blockAddress mode.capacity lba) (.ofList sectorSize data) w) :=
    (leads_writeBlock lba data session).bind fun _ => Action.leads_pure fun _ _ h => h
  have hend := hperform session card ⟨rfl, hcard⟩
  change Ending _ _ (Call.run (bus fault) (.writeBlock lba data) session card).1.result
    (Call.run (bus fault) (.writeBlock lba data) session card).2 at hend
  cases hresult : (Call.run (bus fault) (.writeBlock lba data) session card).1.result with
  | ok answer =>
    rw [hresult] at hend
    obtain ⟨mode, hstate, hlength, hafter⟩ := hend
    refine ⟨faithful_of_write rfl (fun _ _ => ⟨mode, hstate, hlength, ?_, ?_⟩) ?_, hafter.rests⟩
    · rw [hafter.store]
      exact puts_insert card.store _ hlength
    · rw [hafter.written, hafter.store, SectorStore.get_insert, if_pos rfl]
    · intro error herror
      rw [hresult] at herror
      cases herror
  | error error =>
    rw [hresult] at hend
    have hok : ∀ answer, (Call.run (bus fault) (.writeBlock lba data) session card).1.result ≠
        .ok answer := by
      intro answer hok
      rw [hresult] at hok
      cases hok
    -- the card was not asked, or it was and may have stored the block before the error
    rcases hend with hafter | ⟨mode, hstate, hlength, store', written', hstore, hafter⟩
    · refine ⟨faithful_of_write rfl (fun answer h => absurd h (hok answer)) ?_, hafter.rests⟩
      exact fun _ _ => .inl hafter.store
    · refine ⟨faithful_of_write rfl (fun answer h => absurd h (hok answer)) ?_, hafter.rests⟩
      intro _ _
      rw [hafter.store]
      rcases hstore with rfl | rfl
      · exact .inl rfl
      · exact .inr ⟨mode, hstate, hlength, puts_insert card.store _ hlength⟩

/-- Every operation on a card at rest does to its store what it says, and leaves it at rest. -/
theorem faithful_run (hcard : Rests card) :
    Faithful (Call.run (bus fault) request session card).1 card
        (Call.run (bus fault) request session card).2 ∧
      Rests (Call.run (bus fault) request session card).2 := by
  cases request with
  | start =>
    refine faithful_of_harmless hcard (harmless_bind harmless_start fun _ => harmless_pure _) ?_ ?_ ?_
      <;> simp
  | readRange lba offset buffer => exact faithful_readRange hcard lba offset buffer
  | readBlock lba => exact faithful_readBlock hcard lba
  | writeBlock lba data => exact faithful_writeBlock hcard lba data
  | status =>
    refine faithful_of_harmless hcard (harmless_bind harmless_status fun _ => harmless_pure _) ?_ ?_ ?_
      <;> simp
  | readCsd =>
    refine faithful_of_harmless hcard (harmless_bind harmless_readCsd fun _ => harmless_pure _) ?_ ?_ ?_
      <;> simp
  | sectorCount =>
    refine faithful_of_harmless hcard (harmless_bind harmless_sectorCount fun _ => harmless_pure _)
      ?_ ?_ ?_ <;> simp
  | setCardDetectPullup connect =>
    refine faithful_of_harmless hcard (harmless_bind (harmless_setCardDetectPullup connect)
      fun _ => harmless_pure _) ?_ ?_ ?_ <;> simp

end Step

/-! ## All operations -/

/-- A card at rest is at rest after any operations. -/
theorem rests_carryOut {card : CardModel} (hcard : Rests card) (requests : List Request)
    (session : Session) : Rests (carryOut (bus fault) requests session card).2 := by
  -- rest carries the induction: whatever an operation comes to, the next one finds it
  induction requests generalizing session card with
  | nil => exact hcard
  | cons request requests ih => exact ih (faithful_run hcard).2 _

/-- On a card that answers commands in earnest, and that no transaction is under way with, every
operation after every sequence of operations does to the store what it says: however the card is
set up, whatever it holds, and wherever the bus breaks. And sectors have addresses of their own,
but for those whose address does not fit. -/
theorem store_refinement {card : CardModel} (hlink : card.link = {})
    (hfixed : card.fixedResponses = []) (fault : ε) (chipSelect : UInt8) (config : Config)
    (requests : List Request) (request : Request) :
    let reached := carryOut (bus fault) requests (fresh chipSelect config) card
    let carried := Call.run (bus fault) request reached.1 reached.2
    Faithful carried.1 reached.2 carried.2 ∧
      ∀ capacity lba other, blockAddress capacity lba = blockAddress capacity other ↔
        lba = other ∨ (capacity = .standard ∧
        UInt32.size ≤ lba.toNat * sectorSize ∧ UInt32.size ≤ other.toNat * sectorSize) := by
  intro reached carried
  have hrests : Rests card := ⟨⟨rfl, rfl, hfixed⟩, hlink⟩
  have hreached : Rests reached.2 := rests_carryOut hrests requests _
  exact ⟨(faithful_run hreached).1, fun _ _ _ => blockAddress_eq_iff⟩

/-- A card is brought up and written to. -/
theorem store_refinement_write :
    let reached := carryOut (bus ()) [.start] (fresh 0 {}) (ofKind (.v2 true))
    let carried := Call.run (bus ()) (.writeBlock 7 [1, 2, 3]) reached.1 reached.2
    carried.1.result.toOption = some .done ∧ Faithful carried.1 reached.2 carried.2 := by
  intro reached carried
  exact ⟨by decide +kernel, (store_refinement rfl rfl () 0 {} [.start] (.writeBlock 7 [1, 2, 3])).1⟩

end Session

end SdCard
