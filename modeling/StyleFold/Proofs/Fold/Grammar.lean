import StyleFold.Fold.Evaluate

/-!
The grammar of expressions. A schema says, for every place where something can stand, which kinds of
node may stand there and what their fields hold; data is formed for a place when it follows the
schema all the way down. Fields that evaluation does not read are free. A fragment leaves out
spreads or computed keys.
-/

namespace StyleFold.Fold

section Schema

inductive Role where
  | expression
  | callee
  | element
  | property
  | key
  | member
  | identifier
  | piece
  | text
  | truth
  | number
  | binarySymbol
  | unarySymbol
  | mark
  | nothing
  | many (item : Role)
  | oneOrMore (item : Role)
  deriving DecidableEq, Repr

structure Demand where
  name : String
  role : Role
  optional : Bool := false
  deriving DecidableEq, Repr

/-- What may be written besides the rest of the grammar. -/
structure Fragment where
  spreads : Bool
  computedKeys : Bool

def Fragment.full : Fragment := ⟨true, true⟩

/-- Containers have as many entries as are written, under keys that are written. -/
def Fragment.fixed : Fragment := ⟨false, false⟩

/-- What evaluation reads of an expression of a kind; an invalid one is no expression. -/
def expressionDemands : Kind → Option (List Demand)
  | .stringLiteral | .identifier => some [⟨"value", .text, false⟩]
  | .booleanLiteral => some [⟨"value", .truth, false⟩]
  | .numericLiteral => some [⟨"value", .number, false⟩]
  | .regExpLiteral => some [⟨"pattern", .text, false⟩, ⟨"flags", .text, true⟩]
  | .invalid => none
  | .arrayExpression => some [⟨"elements", .many .element, false⟩]
  | .objectExpression => some [⟨"properties", .many .property, false⟩]
  | .binaryExpression =>
      some [⟨"operator", .binarySymbol, false⟩, ⟨"left", .expression, false⟩,
        ⟨"right", .expression, false⟩]
  | .unaryExpression => some [⟨"operator", .unarySymbol, false⟩, ⟨"argument", .expression, false⟩]
  | .awaitExpression => some [⟨"argument", .expression, false⟩]
  | .assignmentExpression => some [⟨"right", .expression, false⟩]
  | .conditionalExpression =>
      some [⟨"test", .expression, false⟩, ⟨"consequent", .expression, false⟩,
        ⟨"alternate", .expression, false⟩]
  | .templateLiteral =>
      some [⟨"quasis", .many .piece, false⟩, ⟨"expressions", .many .expression, true⟩]
  | .templateElement => some [⟨"cooked", .text, true⟩, ⟨"raw", .text, true⟩]
  | .callExpression => some [⟨"callee", .callee, false⟩, ⟨"arguments", .many .element, false⟩]
  | .memberExpression => some [⟨"object", .expression, false⟩, ⟨"property", .member, false⟩]
  | .privateName => some [⟨"id", .identifier, false⟩]
  | .sequenceExpression => some [⟨"expressions", .oneOrMore .expression, false⟩]
  | .computed => some [⟨"expression", .expression, false⟩]
  | kind => if isTransparent kind then some [⟨"expression", .expression, false⟩] else some []

/-- What evaluation reads of a node in a place; nothing when such a node may not stand there. -/
def demands (fragment : Fragment) : Role → Option Kind → Option (List Demand)
  | .expression, some kind | .callee, some kind => expressionDemands kind
  | .element, _ =>
      some [⟨"expression", .expression, false⟩,
        ⟨"spread", if fragment.spreads then .mark else .nothing, true⟩]
  | .property, some .spreadElement =>
      if fragment.spreads then some [⟨"arguments", .expression, false⟩] else none
  | .property, some .keyValueProperty | .property, some .assignmentProperty =>
      some [⟨"key", .key, false⟩, ⟨"value", .expression, false⟩]
  | .property, some .identifier => some [⟨"value", .text, false⟩]
  | .property, _ => some []
  | .key, some .identifier | .key, some .stringLiteral => some [⟨"value", .text, false⟩]
  | .key, some .numericLiteral => some [⟨"value", .number, false⟩]
  | .key, some .computed =>
      if fragment.computedKeys then some [⟨"expression", .expression, false⟩] else none
  | .key, _ => some []
  | .member, some .identifier => some [⟨"value", .text, false⟩]
  | .member, some .privateName => some [⟨"id", .identifier, false⟩]
  | .member, some .computed => some [⟨"expression", .expression, false⟩]
  | .member, _ => some []
  | .identifier, some .identifier => some [⟨"value", .text, false⟩]
  | .piece, some .templateElement => some [⟨"cooked", .text, true⟩, ⟨"raw", .text, true⟩]
  | .mark, _ => some []
  | _, _ => none

end Schema

section Formed

def isBinarySymbol (symbol : String) : Bool :=
  (Logical.ofSymbol? symbol).isSome || (Comparison.ofSymbol? symbol).isSome || symbol == "in" ||
    symbol == "instanceof" || (Arithmetic.ofSymbol? symbol).isSome

def isUnarySymbol (symbol : String) : Bool :=
  symbol == "delete" || (Unary.ofSymbol? symbol).isSome

def spellsBigint (text : String) : Bool := (Grouped.readLiteral? (bigintDigits text)).isSome

/-- A bigint literal has a whole number, or a numeral in its value or else in its source text. -/
def writesBigint (entries : Entries) : Bool :=
  match Data.lookup? "value" entries with
  | some (.int _) => true
  | some (.text s) => spellsBigint s
  | none | some .null =>
      match Data.lookup? "raw" entries with
      | some (.text s) => spellsBigint s
      | _ => false
  | some _ => false

def formedScalar : Role → Data → Bool
  | .text, .text _ => true
  | .truth, .bool _ => true
  | .number, .float _ => true
  | .number, .int i => (Double.ofInt? i).isSome
  | .binarySymbol, .text symbol => isBinarySymbol symbol
  | .unarySymbol, .text symbol => isUnarySymbol symbol
  -- A hole in an array.
  | .element, .null => true
  | .mark, .bool _ | .mark, .int _ | .mark, .float _ | .mark, .text _ => true
  | _, _ => false

def isNull : Data → Bool
  | .null => true
  | _ => false

def demandFor? (wanted : List Demand) (key : Data) : Option Demand :=
  wanted.find? fun demand => Data.isKey demand.name key

def hasFields (wanted : List Demand) (entries : Entries) : Bool :=
  wanted.all fun demand => demand.optional || (Data.lookup? demand.name entries).isSome

mutual

def formed (fragment : Fragment) : Role → Data → Bool
  | role, .map entries =>
      match Node.ofEntries entries with
      | .error _ => false
      | .ok view =>
          match demands fragment role view.kind with
          | none => false
          | some wanted =>
              hasFields wanted entries && (!view.isKind .bigIntLiteral || writesBigint entries) &&
                formedFields fragment wanted entries
  | .many role, .list items => formedItems fragment role items
  | .oneOrMore role, .list items => !items.isEmpty && formedItems fragment role items
  | role, data => formedScalar role data

def formedFields (fragment : Fragment) (wanted : List Demand) : Entries → Bool
  | [] => true
  | (key, value) :: rest =>
      (match demandFor? wanted key with
        | none => true
        | some demand => (demand.optional && isNull value) || formed fragment demand.role value) &&
        formedFields fragment wanted rest

def formedItems (fragment : Fragment) (role : Role) : List Data → Bool
  | [] => true
  | item :: rest => formed fragment role item && formedItems fragment role rest

end

/-- An expression of the grammar. -/
def Formed (fragment : Fragment) (role : Role) (data : Data) : Prop :=
  formed fragment role data = true

instance (fragment : Fragment) (role : Role) (data : Data) :
    Decidable (Formed fragment role data) :=
  inferInstanceAs (Decidable (formed fragment role data = true))

end Formed

section Reading

variable {fragment : Fragment} {role : Role}

mutual

theorem check_of_formed : ∀ {role : Role} {data : Data}, formed fragment role data = true →
    Node.check data = .ok ()
  | role, .map entries, form => by
      simp only [formed] at form
      split at form
      · cases form
      · rename_i view opened
        simp [Node.check, opened, Except.map]
  | role, .list items, form => by
      cases role with
      | many item => simpa [Node.check] using checkAll_of_formedItems (by simpa [formed] using form)
      | oneOrMore item =>
          simp only [formed, Bool.and_eq_true] at form
          simpa [Node.check] using checkAll_of_formedItems form.2
      | _ => simp [formed, formedScalar] at form
  | role, .pair key value, form => by simp [formed, formedScalar] at form
  | _, .null, _ | _, .bool _, _ | _, .int _, _ | _, .float _, _ | _, .text _, _ | _, .bytes _, _
  | _, .moment _, _ | _, .set _, _ | _, .cycle _, _ => by simp [Node.check]

theorem checkAll_of_formedItems : ∀ {role : Role} {items : List Data},
    formedItems fragment role items = true → Node.checkAll items = .ok ()
  | role, [], _ => rfl
  | role, item :: rest, form => by
      simp only [formedItems, Bool.and_eq_true] at form
      simp [Node.checkAll, check_of_formed form.1, checkAll_of_formedItems form.2]

end

theorem formedItems_iff {items : List Data} :
    formedItems fragment role items = true ↔ ∀ item ∈ items, Formed fragment role item := by
  induction items with
  | nil => simp [formedItems]
  | cons item rest ih => simp [formedItems, ih, Formed]

structure Reads (node : Node) (name : String) (part : Data) : Prop where
  found : Data.lookup? name node.entries = some part
  sound : Node.check part = .ok ()

/-- A field that is not there, or null. -/
def Lacks (node : Node) (name : String) : Prop :=
  ∀ part, Data.lookup? name node.entries = some part → part = .null

/-- A node has the fields that are wanted of it, each with what belongs there. -/
structure Follows (fragment : Fragment) (wanted : List Demand) (view : Node) : Prop where
  present : hasFields wanted view.entries = true
  bigint : view.kind = some .bigIntLiteral → writesBigint view.entries = true
  fields : formedFields fragment wanted view.entries = true

theorem formed_view {entries : Entries} (form : Formed fragment role (.map entries)) :
    ∃ view wanted, Node.ofEntries entries = .ok view ∧
      demands fragment role view.kind = some wanted ∧ Follows fragment wanted view := by
  unfold Formed at form
  simp only [formed] at form
  split at form
  · cases form
  · rename_i view opened
    split at form
    · cases form
    · rename_i wanted asked
      simp only [Bool.and_eq_true, Bool.or_eq_true, Bool.not_eq_true'] at form
      have same := Node.entries_of_ofEntries opened
      refine ⟨view, wanted, opened, asked, ?_, ?_, ?_⟩
      · rw [same]
        exact form.1.1
      · intro kind
        rw [same]
        exact form.1.2.resolve_left (by simp [Node.isKind, kind])
      · rw [same]
        exact form.2

theorem formed_of_view {entries : Entries} {view : Node} {wanted : List Demand}
    (opened : Node.ofEntries entries = .ok view)
    (asked : demands fragment role view.kind = some wanted)
    (follows : Follows fragment wanted view) :
    Formed fragment role (.map entries) := by
  have same := Node.entries_of_ofEntries opened
  obtain ⟨present, bigint, fields⟩ := follows
  rw [same] at present bigint fields
  simp only [Formed, formed, opened, asked, present, fields, Bool.true_and, Bool.and_true,
    Bool.or_eq_true, Bool.not_eq_true']
  by_cases kind : view.kind = some .bigIntLiteral
  · exact .inr (bigint kind)
  · exact .inl (by simpa [Node.isKind] using kind)

theorem formed_field {wanted : List Demand} {entries : Entries} {name : String} {part : Data}
    {demand : Demand} (form : formedFields fragment wanted entries = true)
    (asked : demandFor? wanted (.text name) = some demand)
    (found : Data.lookup? name entries = some part) :
    (demand.optional = true ∧ part = .null) ∨ Formed fragment demand.role part := by
  induction entries with
  | nil => simp [Data.lookup?] at found
  | cons entry rest ih =>
      obtain ⟨key, value⟩ := entry
      simp only [formedFields, Bool.and_eq_true] at form
      simp only [Data.lookup?] at found
      split at found
      · rename_i matched
        cases found
        cases key with
        | text other =>
            have same : other = name := by simpa [Data.isKey] using matched
            have first := form.1
            rw [same, asked] at first
            simp only [Bool.or_eq_true, Bool.and_eq_true] at first
            refine first.imp (fun skipped => ⟨skipped.1, ?_⟩) id
            cases part <;> simp_all [isNull]
        | _ => simp [Data.isKey] at matched
      · exact ih form.2 found

namespace Follows

variable {wanted : List Demand} {view : Node}

theorem given (follows : Follows fragment wanted view) (name : String)
    (asked : demandFor? wanted (.text name) = some ⟨name, role, false⟩) :
    ∃ part, Reads view name part ∧ Formed fragment role part := by
  have there := List.all_eq_true.mp follows.present _ (List.mem_of_find?_eq_some asked)
  obtain ⟨part, found⟩ := Option.isSome_iff_exists.mp (by simpa using there)
  have form := (formed_field follows.fields asked found).resolve_left (by simp)
  exact ⟨part, ⟨found, check_of_formed form⟩, form⟩

theorem maybe (follows : Follows fragment wanted view) (name : String)
    (asked : demandFor? wanted (.text name) = some ⟨name, role, true⟩) :
    Lacks view name ∨ ∃ part, Reads view name part ∧ Formed fragment role part := by
  cases found : Data.lookup? name view.entries with
  | none => exact .inl fun part other => by simp [found] at other
  | some part =>
      rcases formed_field follows.fields asked found with ⟨_, null⟩ | form
      · exact .inl fun other again => by
          rw [found] at again
          cases again
          exact null
      · exact .inr ⟨part, ⟨found, check_of_formed form⟩, form⟩

end Follows

end Reading

end StyleFold.Fold
