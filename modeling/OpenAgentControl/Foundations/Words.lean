import Mathlib.Data.List.Basic

/-! # The words of a text

The runs between the breaks of a text. A word is not empty and holds no break (`mem_words`), and a
text is one of its own words exactly when it is a single word (`mem_words_self_iff`). -/

namespace Foundations
set_option autoImplicit false
set_option maxHeartbeats 250000

variable {α : Type} (isBreak : α → Bool)

/-- The word that ends with a run, the latest character first, if the run is not empty. -/
def flush (run : List α) : List (List α) := if run.isEmpty then [] else [run.reverse]

/-- The words of a text of which `run` has been read since the last break. -/
def wordsFrom : List α → List α → List (List α)
  | run, [] => flush run
  | run, c :: rest =>
    if isBreak c then flush run ++ wordsFrom [] rest else wordsFrom (c :: run) rest

def words (text : List α) : List (List α) := wordsFrom isBreak [] text

variable {isBreak} {run text word : List α}

theorem mem_flush (hrun : ∀ c ∈ run, isBreak c = false) (h : word ∈ flush run) :
    word ≠ [] ∧ ∀ c ∈ word, isBreak c = false := by
  unfold flush at h
  split_ifs at h with hempty
  · cases h
  · rw [List.mem_singleton.mp h]
    refine ⟨by simpa using hempty, fun c hc => hrun c (List.mem_reverse.mp hc)⟩

theorem mem_wordsFrom (hrun : ∀ c ∈ run, isBreak c = false) (h : word ∈ wordsFrom isBreak run text) :
    word ≠ [] ∧ ∀ c ∈ word, isBreak c = false := by
  induction text generalizing run with
  | nil => exact mem_flush hrun h
  | cons c rest ih =>
    have hempty : ∀ d ∈ ([] : List α), isBreak d = false := fun d hd => absurd hd List.not_mem_nil
    rw [wordsFrom] at h
    by_cases hc : isBreak c = true
    · rw [if_pos hc, List.mem_append] at h
      obtain h | h := h
      · exact mem_flush hrun h
      · exact ih hempty h
    · rw [if_neg hc] at h
      exact ih (List.forall_mem_cons.mpr ⟨Bool.eq_false_iff.mpr hc, hrun⟩) h

theorem mem_words (h : word ∈ words isBreak text) :
    word ≠ [] ∧ ∀ c ∈ word, isBreak c = false :=
  mem_wordsFrom (fun _ hc => absurd hc List.not_mem_nil) h

theorem wordsFrom_of_no_break (h : ∀ c ∈ text, isBreak c = false) :
    wordsFrom isBreak run text = flush (text.reverse ++ run) := by
  induction text generalizing run with
  | nil => rfl
  | cons c rest ih =>
    obtain ⟨hc, hrest⟩ := List.forall_mem_cons.mp h
    rw [wordsFrom, if_neg (by simp [hc]), ih hrest]
    simp

/-- A text is one of its own words exactly when it is a single word. -/
theorem mem_words_self_iff :
    text ∈ words isBreak text ↔ text ≠ [] ∧ ∀ c ∈ text, isBreak c = false := by
  constructor
  · exact mem_words
  · rintro ⟨hne, h⟩
    rw [words, wordsFrom_of_no_break h]
    simp [flush, hne]

end Foundations
