/-
Texts without what stands at their ends.

Taking a set of characters off both ends leaves the one part of the text around which there is
nothing but these characters, and which neither starts nor ends with one (`IsCore`).

* `isCore_iff` — what is left is that part, and there is no other;
* `strip_eq_self` — a text without such characters is left as it is.
-/
import Mathlib.Data.List.TakeWhile
import MetricRelay.Text.Blank

namespace MetricRelay.Text

variable {p : Char → Bool} {cs core : List Char}

/-- The part of a text between the characters of a set at its two ends. -/
structure IsCore (p : Char → Bool) (cs core : List Char) : Prop where
  around : ∃ before after, cs = before ++ core ++ after ∧ (∀ c ∈ before, p c = true) ∧
    ∀ c ∈ after, p c = true
  first : ∀ c, core.head? = some c → p c = false
  last : ∀ c, core.getLast? = some c → p c = false

theorem dropWhile_eq_self_of_head? (h : ∀ c, cs.head? = some c → p c = false) :
    cs.dropWhile p = cs := by
  cases cs with
  | nil => rfl
  | cons c cs => rw [List.dropWhile_cons_of_neg (by simp [h c rfl])]

theorem isCore_strip (p : Char → Bool) (cs : List Char) : IsCore p cs (strip p cs) := by
  have hback := List.takeWhile_append_dropWhile (p := p) (l := (cs.dropWhile p).reverse)
  have hrest : strip p cs ++ ((cs.dropWhile p).reverse.takeWhile p).reverse = cs.dropWhile p := by
    rw [strip, ← List.reverse_append, hback, List.reverse_reverse]
  constructor
  · refine ⟨cs.takeWhile p, ((cs.dropWhile p).reverse.takeWhile p).reverse, ?_,
      fun c hc => List.mem_takeWhile_imp hc,
      fun c hc => List.mem_takeWhile_imp (List.mem_reverse.mp hc)⟩
    rw [List.append_assoc, hrest, List.takeWhile_append_dropWhile]
  · intro c hc
    have hhead : (cs.dropWhile p).head? = some c := by
      rw [← hrest, List.head?_append, hc]
      rfl
    have hnot := List.head?_dropWhile_not p cs
    rwa [hhead] at hnot
  · intro c hc
    rw [strip, List.getLast?_reverse] at hc
    have hnot := List.head?_dropWhile_not p (cs.dropWhile p).reverse
    rwa [hc] at hnot

/-- What is left of a text is the part between the characters of the set at its ends. -/
theorem isCore_iff : IsCore p cs core ↔ core = strip p cs := by
  refine ⟨?_, fun h => h ▸ isCore_strip p cs⟩
  rintro ⟨⟨before, after, rfl, hbefore, hafter⟩, hfirst, hlast⟩
  rw [strip, List.append_assoc, List.dropWhile_append_of_pos hbefore]
  cases core with
  | nil => rw [List.nil_append, List.dropWhile_eq_nil_iff.mpr hafter]; rfl
  | cons c core =>
    have hfront : (c :: core ++ after).dropWhile p = c :: core ++ after :=
      dropWhile_eq_self_of_head? fun d hd => hfirst d hd
    have hback : (c :: core).reverse.dropWhile p = (c :: core).reverse :=
      dropWhile_eq_self_of_head? fun d hd => hlast d (by rwa [List.head?_reverse] at hd)
    rw [hfront, List.reverse_append,
      List.dropWhile_append_of_pos fun d hd => hafter d (List.mem_reverse.mp hd), hback,
      List.reverse_reverse]

theorem strip_eq_self (h : ∀ c ∈ cs, p c = false) : strip p cs = cs :=
  (isCore_iff.mp ⟨⟨[], [], by simp, nofun, nofun⟩, fun c hc => h c (List.mem_of_mem_head? hc),
    fun c hc => h c (List.mem_of_mem_getLast? hc)⟩).symm

end MetricRelay.Text
