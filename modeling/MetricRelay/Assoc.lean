/-
Maps that remember the order in which their keys came.

An entry that is written again keeps its place and its first key and takes the new value, so the
order of the keys is the order of their first writes.  Keys are compared by `==`, which need not be
equality: bucket bounds are doubles, where the two zeros are one key and NaN is never found again,
and label names that are numbers are one key however they are written.

* `get?_put_self`, `get?_put_of_ne` — what a write does to a lookup,
* `keys_put` — what a write does to the keys.
-/
namespace MetricRelay

/-- Keys with their values, in the order of the keys' first writes. -/
abbrev Assoc (κ α : Type) := List (κ × α)

namespace Assoc

variable {κ α β : Type} [BEq κ]

/-- The value of a key. -/
def get? (m : Assoc κ α) (k : κ) : Option α :=
  match m with
  | [] => none
  | e :: es => if e.1 == k then some e.2 else get? es k

/-- Whether a key has a value. -/
def has (m : Assoc κ α) (k : κ) : Bool :=
  (get? m k).isSome

/-- The map in which a key has a new value; a new key comes last. -/
def put (m : Assoc κ α) (k : κ) (v : α) : Assoc κ α :=
  match m with
  | [] => [(k, v)]
  | e :: es => if e.1 == k then (e.1, v) :: es else e :: put es k v

/-- The map in which a key that has no value gets one; a key that has one keeps it. -/
def putNew (m : Assoc κ α) (k : κ) (v : α) : Assoc κ α :=
  if has m k then m else m ++ [(k, v)]

/-- The map without a key. -/
def erase (m : Assoc κ α) (k : κ) : Assoc κ α :=
  m.filter fun e => !(e.1 == k)

/-- The keys in order. -/
def keys (m : Assoc κ α) : List κ :=
  m.map Prod.fst

/-- The map that results from writing entries one after the other. -/
def ofEntries (es : List (κ × α)) : Assoc κ α :=
  es.foldl (fun m e => put m e.1 e.2) []

omit [BEq κ] in
@[simp] theorem keys_nil : keys ([] : Assoc κ α) = [] := rfl

omit [BEq κ] in
@[simp] theorem keys_cons (e : κ × α) (m : Assoc κ α) : keys (e :: m) = e.1 :: keys m := rfl

@[simp] theorem get?_nil (k : κ) : get? ([] : Assoc κ α) k = none := rfl

theorem get?_cons (e : κ × α) (m : Assoc κ α) (k : κ) :
    get? (e :: m) k = if e.1 == k then some e.2 else get? m k := rfl

theorem keys_put (m : Assoc κ α) (k : κ) (v : α) :
    keys (put m k v) = if has m k then keys m else keys m ++ [k] := by
  induction m with
  | nil => simp [put, has]
  | cons e m ih =>
    by_cases h : e.1 == k
    · simp [put, has, get?, h]
    · simp only [has] at ih
      by_cases hm : (get? m k).isSome
      · simp [put, has, get?, h, ih, hm]
      · simp [put, has, get?, h, ih, hm]

theorem has_eq_any (m : Assoc κ α) (k : κ) : has m k = (keys m).any (· == k) := by
  induction m with
  | nil => simp [has]
  | cons e m ih =>
    simp only [has] at ih
    by_cases h : e.1 == k
    · simp [has, get?, h]
    · simp [has, get?, h, ih]

theorem get?_put_self [ReflBEq κ] (m : Assoc κ α) (k : κ) (v : α) :
    get? (put m k v) k = some v := by
  induction m with
  | nil => simp [put, get?]
  | cons e m ih =>
    by_cases h : e.1 == k
    · simp [put, get?, h]
    · simp [put, get?, h, ih]

theorem get?_put_of_ne [PartialEquivBEq κ] (m : Assoc κ α) {k l : κ} (h : (k == l) = false)
    (v : α) :
    get? (put m k v) l = get? m l := by
  induction m with
  | nil => simp [put, get?, h]
  | cons e m ih =>
    by_cases he : e.1 == k
    · have hl : (e.1 == l) = false := by
        cases hl : e.1 == l with
        | false => rfl
        | true => rw [PartialEquivBEq.trans (PartialEquivBEq.symm he) hl] at h; cases h
      simp [put, get?, he, hl]
    · simp [put, get?, he, ih]

theorem has_iff_mem [LawfulBEq κ] (m : Assoc κ α) (k : κ) : has m k = true ↔ k ∈ keys m := by
  simp [has_eq_any]

end Assoc

end MetricRelay
