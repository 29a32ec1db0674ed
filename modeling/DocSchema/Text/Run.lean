/-!
# Sets of code points given by runs

A property of characters is stored as an ascending list of runs, each an arithmetic progression of
code points. Most runs have step one; the letters that alternate between upper and lower case have
step two. `memRuns` decides membership and stops at the first run that starts past the code point.
-/

namespace DocSchema.Text

/-- The code points `first`, `first + step`, … up to `last`. -/
structure Run where
  /-- The least code point of the run. -/
  first : Nat
  /-- The greatest code point of the run. -/
  last : Nat
  /-- The distance between neighbours. -/
  step : Nat
deriving Repr, DecidableEq

/-- The run holds the code point. -/
def Run.contains (r : Run) (n : Nat) : Bool :=
  r.first ≤ n && n ≤ r.last && (n - r.first) % r.step == 0

/-- One of the runs of an ascending list holds the code point. -/
def memRuns : List Run → Nat → Bool
  | [], _ => false
  | r :: rest, n => if n < r.first then false else r.contains n || memRuns rest n

/-- Membership is witnessed by a run of the list. -/
theorem exists_run_of_memRuns {runs : List Run} {n : Nat} (h : memRuns runs n = true) :
    ∃ r ∈ runs, r.contains n = true := by
  induction runs with
  | nil => simp [memRuns] at h
  | cons r rest ih =>
    rw [memRuns] at h
    split at h
    · simp at h
    · rcases Bool.or_eq_true_iff.1 h with hr | hrest
      · exact ⟨r, by simp, hr⟩
      · obtain ⟨s, hs, hn⟩ := ih hrest
        exact ⟨s, by simp [hs], hn⟩

end DocSchema.Text
