import StyleFold.Scope
import Mathlib.Data.List.Induction

/-!
Histories of a scope table. A history is any row of operations on the empty table, with those that
fail. Which scopes it leaves open, and what each of them binds, is read off the row itself: a scope
is open as long as nothing after its opening closes it, and it binds what is bound while no inner
scope is open. Main statement: the frames of the table are these scopes, so that a lookup finds the
last binding in the innermost open scope that has one, and a scope that is closed leaves no trace.
-/

namespace StyleFold

section Lookup

variable {Key Val : Type} [BEq Key] [EquivBEq Key]

theorem lookup_congr (entries : List (Key × Val)) {asked key : Key} (same : (asked == key) = true) :
    entries.lookup asked = entries.lookup key := by
  induction entries with
  | nil => rfl
  | cons entry rest ih => rw [List.lookup_cons, List.lookup_cons, ih, BEq.congr_left same]

theorem lookup_putAll (entries additions : List (Key × Val)) (asked : Key) :
    (Assoc.putAll entries additions).lookup asked =
      (additions.reverse.lookup asked).or (entries.lookup asked) := by
  unfold Assoc.putAll
  induction additions generalizing entries with
  | nil => rfl
  | cons entry rest ih =>
      obtain ⟨key, value⟩ := entry
      rw [List.foldl_cons, ih, List.reverse_cons, List.lookup_append, Option.or_assoc]
      congr 1
      cases same : asked == key with
      | true => simp [lookup_congr _ same, Assoc.lookup_put_same]
      | false => simp [List.lookup_cons, same, Assoc.lookup_put_other _ _ _ _ same]

end Lookup

namespace ScopeTable

section Operations

/-- A call that may change a table. -/
inductive Operation where
  | push
  | pop
  | bind (name : Label) (value : Value)
  | addNamespace (name : Label)
  | addImport (name imported : Label)

namespace Operation

def apply (table : ScopeTable) : Operation → Except Fault ScopeTable
  | .push => .ok table.push
  | .pop => table.pop
  | .bind name value => table.bind name value
  | .addNamespace name => .ok (table.addNamespace name)
  | .addImport name imported => .ok (table.addImport name imported)

/-- What an operation answers, and the table that it leaves. -/
def run (table : ScopeTable) (operation : Operation) : Except Fault Unit × ScopeTable :=
  match operation.apply table with
  | .ok later => (.ok (), later)
  | .error fault => (.error fault, table)

/-- Operations on frames; the others are on imports. -/
def onFrames : Operation → Bool
  | .push | .pop | .bind _ _ => true
  | .addNamespace _ | .addImport _ _ => false

/-- Operations that need an open scope. -/
def needsScope : Operation → Bool
  | .pop | .bind _ _ => true
  | _ => false

end Operation

def runAll (table : ScopeTable) (operations : List Operation) : ScopeTable :=
  operations.foldl (fun table operation => (operation.run table).2) table

/-- The table that a history leads to. -/
def after (history : List Operation) : ScopeTable := runAll {} history

@[simp] theorem runAll_cons (table : ScopeTable) (operation : Operation) (rest : List Operation) :
    table.runAll (operation :: rest) = runAll (operation.run table).2 rest := rfl

theorem runAll_append (table : ScopeTable) (first second : List Operation) :
    table.runAll (first ++ second) = runAll (table.runAll first) second := List.foldl_append

theorem after_append (history operations : List Operation) :
    after (history ++ operations) = runAll (after history) operations := runAll_append _ _ _

end Operations

section Scopes

/-- How many scopes are open after operations that began with some; none if they close one more. -/
def rise (level : Nat) : List Operation → Option Nat
  | [] => some level
  | .push :: rest => rise (level + 1) rest
  | .pop :: rest =>
      match level with
      | 0 => none
      | outer + 1 => rise outer rest
  | _ :: rest => rise level rest

/-- Operations close the scopes that they open, and no others. -/
def Balanced (operations : List Operation) : Prop := rise 0 operations = some 0

instance (operations : List Operation) : Decidable (Balanced operations) :=
  inferInstanceAs (Decidable (rise 0 operations = some 0))

/-- What is bound in a scope by the operations after its opening, in their order. The level is that
of the operation within the scope. -/
def ownBindings (level : Nat) : List Operation → List (Label × Value)
  | [] => []
  | .push :: rest => ownBindings (level + 1) rest
  | .pop :: rest =>
      match level with
      | 0 => []
      | outer + 1 => ownBindings outer rest
  | .bind name value :: rest =>
      match level with
      | 0 => (name, value) :: ownBindings 0 rest
      | outer + 1 => ownBindings (outer + 1) rest
  | _ :: rest => ownBindings level rest

/-- The scopes that a history leaves open, innermost first, with what each binds. -/
def openScopes : List Operation → List (List (Label × Value))
  | [] => []
  | .push :: later =>
      if (rise 0 later).isSome then openScopes later ++ [ownBindings 0 later] else openScopes later
  | _ :: later => openScopes later

def Operation.binding : Operation → List (Label × Value)
  | .bind name value => [(name, value)]
  | _ => []

def Operation.settle (scopes : List (List (Label × Value))) :
    Operation → List (List (Label × Value))
  | .push => [] :: scopes
  | .pop => scopes.tail
  | .bind name value => scopes.modifyHead (· ++ [(name, value)])
  | _ => scopes

theorem rise_append (level : Nat) (first second : List Operation) :
    rise level (first ++ second) = (rise level first).bind fun middle => rise middle second := by
  induction first generalizing level with
  | nil => rfl
  | cons operation rest ih =>
      cases operation with
      | push => exact ih (level + 1)
      | pop =>
          cases level with
          | zero => rfl
          | succ outer => exact ih outer
      | bind name value => exact ih level
      | addNamespace name => exact ih level
      | addImport name imported => exact ih level

theorem rise_add {level reached : Nat} {operations : List Operation}
    (rises : rise level operations = some reached) (more : Nat) :
    rise (level + more) operations = some (reached + more) := by
  induction operations generalizing level with
  | nil =>
      cases rises
      rfl
  | cons operation rest ih =>
      cases operation with
      | push =>
          rw [rise, Nat.add_right_comm]
          exact ih rises
      | pop =>
          cases level with
          | zero => cases rises
          | succ outer =>
              rw [Nat.add_right_comm]
              exact ih rises
      | bind name value => exact ih rises
      | addNamespace name => exact ih rises
      | addImport name imported => exact ih rises

/-- What rises from the least level it can begin at has opened all scopes
that are open in the end. -/
theorem length_openScopes_of_least {level reached : Nat} {operations : List Operation}
    (rises : rise level operations = some reached)
    (least : ∀ lower, level = lower + 1 → rise lower operations = none) :
    (openScopes operations).length = reached := by
  induction operations generalizing level reached with
  | nil =>
      cases level with
      | zero =>
          cases rises
          rfl
      | succ lower => cases least lower rfl
  | cons operation rest ih =>
      cases operation with
      | push =>
          cases inner : rise 0 rest with
          | none =>
              simp only [openScopes, inner, Option.isSome_none, Bool.false_eq_true, if_false]
              apply ih rises
              intro lower same
              cases same
              -- Below the least level, the outermost scope is the one that was just opened.
              cases level with
              | zero => exact inner
              | succ lower => exact least lower rfl
          | some deep =>
              have lifted (more : Nat) : rise more rest = some (deep + more) := by
                simpa using rise_add inner more
              cases level with
              | zero =>
                  have whole : deep + 1 = reached := Option.some.inj ((lifted 1).symm.trans rises)
                  have count := ih inner fun lower same => nomatch same
                  simp [openScopes, inner, count, whole]
              | succ lower =>
                  -- One level less would do, as the scope opened here is not closed.
                  have refused : rise (lower + 1) rest = none := least lower rfl
                  simp [lifted] at refused
      | pop =>
          cases level with
          | zero => cases rises
          | succ outer =>
              apply ih rises
              rintro lower rfl
              exact least (lower + 1) rfl
      | bind name value => exact ih rises least
      | addNamespace name => exact ih rises least
      | addImport name imported => exact ih rises least

theorem length_openScopes {reached : Nat} {operations : List Operation}
    (rises : rise 0 operations = some reached) : (openScopes operations).length = reached :=
  length_openScopes_of_least rises fun _ same => nomatch same

theorem ownBindings_snoc (level : Nat) (operations : List Operation) (last : Operation) :
    ownBindings level (operations ++ [last]) =
      ownBindings level operations ++
        if rise level operations = some 0 then last.binding else [] := by
  induction operations generalizing level with
  | nil =>
      cases last with
      | push => simp [ownBindings, Operation.binding]
      | pop => cases level <;> simp [ownBindings, Operation.binding]
      | bind name value => cases level <;> simp [ownBindings, rise, Operation.binding]
      | addNamespace name => simp [ownBindings, Operation.binding]
      | addImport name imported => simp [ownBindings, Operation.binding]
  | cons operation rest ih =>
      cases operation with
      | push => exact ih (level + 1)
      | pop =>
          cases level with
          | zero => simp [ownBindings, rise]
          | succ outer => exact ih outer
      | bind name value =>
          cases level with
          | zero => exact congrArg (List.cons (name, value)) (ih 0)
          | succ outer => exact ih (outer + 1)
      | addNamespace name => exact ih level
      | addImport name imported => exact ih level

theorem openScopes_snoc (operations : List Operation) (last : Operation) :
    openScopes (operations ++ [last]) = last.settle (openScopes operations) := by
  induction operations with
  | nil => cases last <;> rfl
  | cons operation later ih =>
      cases operation with
      | push =>
          simp only [List.cons_append, openScopes, rise_append, ownBindings_snoc, ih]
          cases rises : rise 0 later with
          | none => simp
          | some reached =>
              have count := length_openScopes rises
              cases reached with
              | zero =>
                  -- The scope opened first is the innermost one.
                  rw [List.eq_nil_of_length_eq_zero count]
                  cases last <;> simp [rise, Operation.settle, Operation.binding]
              | succ inner =>
                  obtain ⟨scope, outer, shape⟩ := List.exists_cons_of_length_eq_add_one count
                  rw [shape]
                  cases last <;> simp [rise, Operation.settle]
      | pop => exact ih
      | bind name value => exact ih
      | addNamespace name => exact ih
      | addImport name imported => exact ih

theorem openScopes_append (history operations : List Operation) :
    openScopes (history ++ operations) =
      operations.foldl Operation.settle (openScopes history) := by
  induction operations using List.reverseRecOn with
  | nil => simp
  | append_singleton operations last ih =>
      rw [← List.append_assoc, openScopes_snoc, ih, List.foldl_append]
      rfl

/-- Operations within a scope that they do not close leave the scopes around it as they are. -/
theorem settle_within {level reached : Nat} {operations : List Operation}
    (rises : rise level operations = some reached) (inner outer : List (List (Label × Value)))
    (count : inner.length = level + 1) :
    ∃ within, operations.foldl Operation.settle (inner ++ outer) = within ++ outer ∧
      within.length = reached + 1 := by
  induction operations generalizing level inner with
  | nil =>
      cases rises
      exact ⟨inner, rfl, count⟩
  | cons operation rest ih =>
      obtain ⟨scope, others, rfl⟩ := List.exists_cons_of_length_eq_add_one count
      have deep : others.length = level := Nat.succ.inj count
      rw [List.foldl_cons]
      cases operation with
      | push => exact ih rises ([] :: scope :: others) (by simp [deep])
      | pop =>
          cases level with
          | zero => cases rises
          | succ lower => exact ih rises others deep
      | bind name value => exact ih rises ((scope ++ [(name, value)]) :: others) (by simp [deep])
      | addNamespace name => exact ih rises _ count
      | addImport name imported => exact ih rises _ count

theorem openScopes_closed (history : List Operation) {inner : List Operation}
    (balanced : Balanced inner) :
    openScopes (history ++ .push :: inner ++ [.pop]) = openScopes history := by
  -- Of the scopes above the history's own, only the new one is left before it is closed.
  obtain ⟨within, kept, single⟩ := settle_within balanced [[]] (openScopes history) rfl
  obtain ⟨scope, rfl⟩ := List.length_eq_one_iff.mp single
  have opened : openScopes (history ++ [.push]) = [[]] ++ openScopes history :=
    openScopes_snoc history .push
  have inside : openScopes (history ++ .push :: inner) = [scope] ++ openScopes history := by
    rw [List.append_cons, openScopes_append, opened, kept]
  rw [openScopes_snoc, inside]
  rfl

end Scopes

section Histories

def Frames (table : ScopeTable) (scopes : List (List (Label × Value))) : Prop :=
  table.frames = scopes.map (Assoc.putAll [])

theorem frames_run {table : ScopeTable} {scopes : List (List (Label × Value))}
    (framed : table.Frames scopes) (operation : Operation) :
    (operation.run table).2.Frames (operation.settle scopes) := by
  unfold Frames at framed ⊢
  -- With no scope open, closing and binding fail and leave the table, and settling leaves the empty
  -- row.
  cases operation with
  | push => simp [Operation.run, Operation.apply, push, Operation.settle, framed, Assoc.putAll]
  | pop =>
      cases scopes with
      | nil => simp [Operation.run, Operation.apply, pop, Operation.settle, framed]
      | cons inner outer => simp [Operation.run, Operation.apply, pop, Operation.settle, framed]
  | bind name value =>
      cases scopes with
      | nil => simp [Operation.run, Operation.apply, ScopeTable.bind, Operation.settle, framed]
      | cons inner outer =>
          simp [Operation.run, Operation.apply, ScopeTable.bind, Operation.settle,
            framed, Assoc.putAll]
  | addNamespace name =>
      simp only [Operation.run, Operation.apply, addNamespace, Operation.settle]
      split <;> exact framed
  | addImport name imported => exact framed

theorem frames_after (history : List Operation) : (after history).Frames (openScopes history) := by
  induction history using List.reverseRecOn with
  | nil => rfl
  | append_singleton history last ih =>
      rw [after_append, openScopes_snoc]
      exact frames_run ih last

theorem lookup?_of_frames {table : ScopeTable} {scopes : List (List (Label × Value))}
    (framed : table.Frames scopes) (name : Label) :
    table.lookup? name = scopes.findSome? fun bound => bound.reverse.lookup name := by
  rw [lookup?, framed, List.findSome?_map]
  congr 1
  funext bound
  simp [lookup_putAll]

theorem run_of_scope {table : ScopeTable} (opened : table.frames ≠ []) (operation : Operation) :
    (operation.run table).1 = .ok () := by
  obtain ⟨inner, outer, frames⟩ := List.exists_cons_of_ne_nil opened
  cases operation <;> simp [Operation.run, Operation.apply, pop, ScopeTable.bind, frames]

theorem run_of_no_scope {table : ScopeTable} (closed : table.frames = []) (operation : Operation) :
    (operation.needsScope = true ∧
        ∃ fault, operation.run table = (.error fault, table) ∧ fault.family = .scope) ∨
      operation.needsScope = false ∧ (operation.run table).1 = .ok () := by
  cases operation with
  | push => exact .inr ⟨rfl, rfl⟩
  | pop =>
      refine .inl ⟨rfl, .nothingToPop, ?_, rfl⟩
      simp [Operation.run, Operation.apply, pop, closed]
  | bind name value =>
      refine .inl ⟨rfl, .nowhereToBind name.shown, ?_, rfl⟩
      simp [Operation.run, Operation.apply, ScopeTable.bind, closed]
  | addNamespace name => exact .inr ⟨rfl, rfl⟩
  | addImport name imported => exact .inr ⟨rfl, rfl⟩

theorem run_fails_iff (table : ScopeTable) (operation : Operation) :
    (∃ fault, (operation.run table).1 = .error fault) ↔ operation.needsScope = true ∧
    table.depth = 0 := by
  by_cases closed : table.frames = []
  · rcases run_of_no_scope closed operation with ⟨needs, fault, failed, _⟩ | ⟨free, done⟩
    · simp [needs, failed, depth, closed]
    · simp [free, done]
  · simp [run_of_scope closed, depth, closed]

theorem run_of_error {table later : ScopeTable} {operation : Operation} {fault : Fault}
    (failed : operation.run table = (.error fault, later)) :
    fault.family = .scope ∧ later = table := by
  by_cases closed : table.frames = []
  · rcases run_of_no_scope closed operation with ⟨_, other, refused, blame⟩ | ⟨_, done⟩
    · rw [refused] at failed
      cases failed
      exact ⟨blame, rfl⟩
    · rw [failed] at done
      cases done
  · have done := run_of_scope closed operation
    rw [failed] at done
    cases done

theorem run_onFrames {operation : Operation} (framing : operation.onFrames = true)
    (table : ScopeTable) :
    (operation.run table).2.namespaces = table.namespaces ∧
      (operation.run table).2.imports = table.imports := by
  cases operation with
  | push => exact ⟨rfl, rfl⟩
  | pop => cases frames : table.frames <;> simp [Operation.run, Operation.apply, pop, frames]
  | bind name value =>
      cases frames : table.frames <;> simp [Operation.run, Operation.apply, ScopeTable.bind, frames]
  | addNamespace name => cases framing
  | addImport name imported => cases framing

theorem runAll_onFrames {operations : List Operation}
    (framing : ∀ operation ∈ operations, operation.onFrames = true) (table : ScopeTable) :
    (table.runAll operations).namespaces = table.namespaces ∧
      (table.runAll operations).imports = table.imports := by
  induction operations generalizing table with
  | nil => exact ⟨rfl, rfl⟩
  | cons operation rest ih =>
      obtain ⟨namespaces, imports⟩ := run_onFrames (framing operation List.mem_cons_self) table
      rw [runAll_cons, ← namespaces, ← imports]
      exact ih (fun other member => framing other (List.mem_cons_of_mem _ member)) _

theorem openScopes_of_imports {operations : List Operation}
    (importing : ∀ operation ∈ operations, operation.onFrames = false) (history : List Operation) :
    openScopes (history ++ operations) = openScopes history := by
  rw [openScopes_append]
  induction operations with
  | nil => rfl
  | cons operation rest ih =>
      have settled : operation.settle (openScopes history) = openScopes history := by
        have free := importing operation List.mem_cons_self
        cases operation with
        | push => cases free
        | pop => cases free
        | bind name value => cases free
        | addNamespace name => rfl
        | addImport name imported => rfl
      rw [List.foldl_cons, settled]
      exact ih fun other member => importing other (List.mem_cons_of_mem _ member)

theorem lookup?_after (history : List Operation) (name : Label) :
    (after history).lookup? name =
    (openScopes history).findSome? fun bound => bound.reverse.lookup name :=
  lookup?_of_frames (frames_after history) name

theorem depth_after (history : List Operation) :
    (after history).depth = (openScopes history).length := by
  rw [depth, frames_after history, List.length_map]

/-- After any history a lookup gives the last binding in the innermost open scope that binds the
name. A scope that is opened and closed again is not seen afterwards. Only what needs a scope fails,
exactly when there is none, and changes nothing. Frames and imports do not disturb each other. -/
theorem lookup?_follows_history (history : List Operation) :
    (∀ name, (after history).lookup? name =
      (openScopes history).findSome? fun bound => bound.reverse.lookup name) ∧
    (∀ name, (after history).lookup? name = none ↔
      ∀ bound ∈ openScopes history, ∀ entry ∈ bound, (name == entry.1) = false) ∧
    (after history).depth = (openScopes history).length ∧
    (∀ inner, Balanced inner →
      (∀ name, (after (history ++ .push :: inner ++ [.pop])).lookup? name =
        (after history).lookup? name) ∧
      (after (history ++ .push :: inner ++ [.pop])).depth = (after history).depth) ∧
    (∀ operation : Operation, (∃ fault, (operation.run (after history)).1 = .error fault) ↔
      operation.needsScope = true ∧ (after history).depth = 0) ∧
    (∀ (operation : Operation) (fault : Fault) (later : ScopeTable),
      operation.run (after history) = (.error fault, later) → fault.family = .scope ∧
        later = after history) ∧
    (∀ operations, (∀ operation ∈ operations, operation.onFrames = true) → ∀ name,
      (after (history ++ operations)).isNamespace name = (after history).isNamespace name ∧
      (after (history ++ operations)).api? name = (after history).api? name) ∧
    (∀ operations, (∀ operation ∈ operations, operation.onFrames = false) → ∀ name,
      (after (history ++ operations)).lookup? name = (after history).lookup? name) := by
  refine ⟨lookup?_after history, ?_, depth_after history, ?_, run_fails_iff _, ?_, ?_, ?_⟩
  · intro name
    rw [lookup?_after, List.findSome?_eq_none_iff]
    simp [List.lookup_eq_none_iff, bne]
  · intro inner balanced
    constructor
    · intro name
      rw [lookup?_after, lookup?_after, openScopes_closed history balanced]
    · rw [depth_after, depth_after, openScopes_closed history balanced]
  · intro operation fault later failed
    exact run_of_error failed
  · intro operations framing name
    obtain ⟨namespaces, imports⟩ := runAll_onFrames framing (after history)
    simp [after_append, isNamespace, api?, namespaces, imports]
  · intro operations importing name
    rw [lookup?_after, lookup?_after, openScopes_of_imports importing]

def rebinding : List Operation :=
  [.push, .bind "x" (.string "old"), .bind "x" (.string "new")]

def shadowing : List Operation :=
  [.bind "x" (.string "inner"), .push, .bind "x" .null, .pop, .addNamespace "s"]

theorem lookup?_follows_rebinding :
    Balanced shadowing ∧
      (after (rebinding ++ .push :: shadowing)).lookup? "x" = some (.string "inner") ∧
      (after (rebinding ++ .push :: shadowing ++ [.pop])).lookup? "x" = some (.string "new") := by
  have balanced : Balanced shadowing := by decide
  obtain ⟨inside, _⟩ := lookup?_follows_history (rebinding ++ .push :: shadowing)
  obtain ⟨outside, _, _, closed, _⟩ := lookup?_follows_history rebinding
  exact ⟨balanced, (inside "x").trans rfl,
    ((closed _ balanced).1 "x").trans ((outside "x").trans rfl)⟩

end Histories

end ScopeTable

end StyleFold
