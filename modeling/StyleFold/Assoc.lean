/-!
Ordered association lists: one entry for each key, in the order in which the keys first
came up. Setting a key that is there keeps its place and its spelling.
-/

namespace StyleFold.Assoc

variable {Key : Type} {Val : Type} [BEq Key]

def put (key : Key) (value : Val) : List (Key × Val) → List (Key × Val)
  | [] => [(key, value)]
  | (other, old) :: rest =>
      if key == other then (other, value) :: rest else (other, old) :: put key value rest

def putAll (entries additions : List (Key × Val)) : List (Key × Val) :=
  additions.foldl (fun total entry => put entry.1 entry.2 total) entries

theorem keys_put (entries : List (Key × Val)) (key : Key) (value : Val) :
    (put key value entries).map Prod.fst =
      if (entries.map Prod.fst).any (key == ·) then entries.map Prod.fst
      else entries.map Prod.fst ++ [key] := by
  induction entries with
  | nil => simp [put]
  | cons entry rest ih =>
      obtain ⟨other, old⟩ := entry
      cases same : key == other with
      | true => simp [put, same]
      | false =>
          simp only [put, same, Bool.false_eq_true, if_false, List.map_cons, ih, List.any_cons,
            Bool.false_or]
          split <;> simp

section Each

variable (holds : Val → Prop) {entries additions : List (Key × Val)} {key : Key} {value : Val}

theorem forall_put (each : ∀ entry ∈ entries, holds entry.2) (new : holds value) :
    ∀ entry ∈ put key value entries, holds entry.2 := by
  induction entries with
  | nil => simpa [put] using new
  | cons entry rest ih =>
      obtain ⟨other, old⟩ := entry
      rw [List.forall_mem_cons] at each
      rw [put]
      split
      · exact List.forall_mem_cons.mpr ⟨new, each.2⟩
      · exact List.forall_mem_cons.mpr ⟨each.1, ih each.2⟩

theorem forall_putAll (each : ∀ entry ∈ entries, holds entry.2)
    (more : ∀ entry ∈ additions, holds entry.2) :
    ∀ entry ∈ putAll entries additions, holds entry.2 := by
  induction additions generalizing entries with
  | nil => exact each
  | cons entry rest ih =>
      rw [List.forall_mem_cons] at more
      exact ih (forall_put holds each more.1) more.2

theorem holds_of_lookup (each : ∀ entry ∈ entries, holds entry.2)
    (found : entries.lookup key = some value) :
    holds value := by
  induction entries with
  | nil => cases found
  | cons entry rest ih =>
      rw [List.forall_mem_cons] at each
      rw [List.lookup_cons] at found
      split at found
      · cases found
        exact each.1
      · exact ih each.2 found

end Each

variable [EquivBEq Key]

theorem lookup_put_same (entries : List (Key × Val)) (key : Key) (value : Val) :
    (put key value entries).lookup key = some value := by
  induction entries with
  | nil => simp [put]
  | cons entry rest ih =>
      obtain ⟨other, old⟩ := entry
      cases same : key == other with
      | true => simp [put, same, List.lookup_cons]
      | false => simpa [put, same, List.lookup_cons] using ih

theorem lookup_put_other (entries : List (Key × Val)) (key asked : Key) (value : Val)
    (differs : (asked == key) = false) :
    (put key value entries).lookup asked = entries.lookup asked := by
  induction entries with
  | nil => simp [put, List.lookup_cons, differs]
  | cons entry rest ih =>
      obtain ⟨other, old⟩ := entry
      cases same : key == other with
      | true =>
          have apart : (asked == other) = false := by
            rw [← BEq.congr_right same]
            exact differs
          simp [put, same, List.lookup_cons, apart]
      | false => simp [put, same, List.lookup_cons, ih]

end StyleFold.Assoc
