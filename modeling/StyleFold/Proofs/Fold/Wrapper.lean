import StyleFold.Proofs.Fold.Replacement

/-!
Wrappers: nodes that only pass on what an expression in them gives. Parentheses, type annotations
and `await` wrap one expression, and a sequence wraps its last one. Main statement: a formed tree
stays formed when every wrapper is taken away, and no wrapper is left where an expression stands.
The callee of a call stays as it is, since it is recognised by how it is written.
-/

namespace StyleFold.Fold

section Definitions

def isWrapper : Option Kind → Bool
  | some .awaitExpression | some .sequenceExpression => true
  | some kind => isTransparent kind
  | none => false

def wrapped? (kind : Option Kind) (entries : Entries) : Option Data :=
  match kind with
  | some .awaitExpression => Data.lookup? "argument" entries
  | some .sequenceExpression =>
      match Data.lookup? "expressions" entries with
      | some (.list items) => items.getLast?
      | _ => none
  | some kind => if isTransparent kind then Data.lookup? "expression" entries else none
  | none => none

def isKept : Role → Bool
  | .callee | .mark => true
  | _ => false

def unwrapNode (role : Role) (kind : Option Kind) (fields : Entries) : Data :=
  if role = .expression then (wrapped? kind fields).getD (.map fields) else .map fields

variable (elsewhere : Data → Data)

mutual

/-- Data without wrappers. What evaluation does not look at may be changed in any way. -/
def unwrap : Role → Data → Data
  | role, .map entries =>
      if isKept role then .map entries
      else match Node.ofEntries entries with
        | .error _ => .map entries
        | .ok view =>
            match demands .full role view.kind with
            | none => .map entries
            | some wanted => unwrapNode role view.kind (unwrapFields view wanted entries)
  | .many role, .list items => .list (unwrapItems role items)
  | .oneOrMore role, .list items => .list (unwrapItems role items)
  | _, data => data

def unwrapFields (view : Node) (wanted : List Demand) : Entries → Entries
  | [] => []
  | (key, value) :: rest =>
      (key, match demandFor? wanted key with
        | some demand => unwrap demand.role value
        | none => if isRead wanted view key then value else elsewhere value) ::
      unwrapFields view wanted rest

def unwrapItems (role : Role) : List Data → List Data
  | [] => []
  | item :: rest => unwrap role item :: unwrapItems role rest

end

mutual

/-- No wrapper stands where evaluation finds an expression. -/
def plain : Role → Data → Bool
  | role, .map entries =>
      isKept role || match Node.ofEntries entries with
        | .error _ => true
        | .ok view =>
            match demands .full role view.kind with
            | none => true
            | some wanted =>
                !(role = .expression && isWrapper view.kind) && plainFields wanted entries
  | .many role, .list items => plainItems role items
  | .oneOrMore role, .list items => plainItems role items
  | _, _ => true

def plainFields (wanted : List Demand) : Entries → Bool
  | [] => true
  | (key, value) :: rest =>
      (match demandFor? wanted key with
        | some demand => plain demand.role value
        | none => true) && plainFields wanted rest

def plainItems (role : Role) : List Data → Bool
  | [] => true
  | item :: rest => plain role item && plainItems role rest

end

end Definitions

section Schema

variable {role : Role} {wanted : List Demand}

theorem demandFor?_none {name : String}
    (apart : ∀ demand ∈ wanted, Data.isKey name (.text demand.name) = false) :
    demandFor? wanted (.text name) = none := by
  cases demanded : demandFor? wanted (.text name) with
  | none => rfl
  | some demand =>
      obtain ⟨member, same⟩ := name_of_demandFor? demanded
      have other := apart demand member
      simp [same, Data.isKey] at other

theorem unwrap_null (elsewhere : Data → Data) (role : Role) :
    unwrap elsewhere role .null = .null := by
  cases role <;> rfl

theorem unwrapItems_eq_map (elsewhere : Data → Data) (role : Role) (items : List Data) :
    unwrapItems elsewhere role items = items.map (unwrap elsewhere role) := by
  induction items with
  | nil => rfl
  | cons item rest ih => rw [unwrapItems, ih, List.map_cons]

theorem unwrap_callee (elsewhere : Data → Data) (data : Data) :
    unwrap elsewhere .callee data = data := by
  cases data with
  | map entries => rw [unwrap, if_pos (by rfl)]
  | _ => rfl

theorem unwrap_scalar (elsewhere : Data → Data) (scalar : role.isScalar = true) (data : Data) :
    unwrap elsewhere role data = data := by
  cases data with
  | map entries =>
      rw [unwrap]
      split
      · rfl
      · split
        · rfl
        · rename_i view opened
          have nothing : demands .full role view.kind = none := by
            cases role <;> simp [Role.isScalar] at scalar <;> simp [demands]
          rw [nothing]
  | list items => cases role <;> simp [Role.isScalar] at scalar <;> simp [unwrap]
  | _ => cases role <;> rfl

end Schema

section Fields

variable {elsewhere : Data → Data} {view : Node} {wanted : List Demand} {role : Role}

theorem lookup?_unwrapFields {name : String} {demand : Demand}
    (demanded : demandFor? wanted (.text name) = some demand) (entries : Entries) :
    Data.lookup? name (unwrapFields elsewhere view wanted entries) =
      (Data.lookup? name entries).map (unwrap elsewhere demand.role) := by
  induction entries with
  | nil => rfl
  | cons entry rest ih =>
      obtain ⟨key, value⟩ := entry
      rw [unwrapFields]
      by_cases matched : Data.isKey name key = true
      · cases Data.isKey_iff.mp matched
        simp [Data.lookup?, matched, demanded]
      · simpa only [Data.lookup?, if_neg matched] using ih

theorem lookup?_unwrapFields_read {name : String} (free : demandFor? wanted (.text name) = none)
    (read : isRead wanted view (.text name) = true) (entries : Entries) :
    Data.lookup? name (unwrapFields elsewhere view wanted entries) = Data.lookup? name entries := by
  induction entries with
  | nil => rfl
  | cons entry rest ih =>
      obtain ⟨key, value⟩ := entry
      rw [unwrapFields]
      by_cases matched : Data.isKey name key = true
      · cases Data.isKey_iff.mp matched
        simp [Data.lookup?, matched, free, read]
      · simpa only [Data.lookup?, if_neg matched] using ih

theorem lookup?_isSome_unwrapFields (name : String) (entries : Entries) :
    (Data.lookup? name (unwrapFields elsewhere view wanted entries)).isSome =
      (Data.lookup? name entries).isSome := by
  induction entries with
  | nil => rfl
  | cons entry rest ih =>
      obtain ⟨key, value⟩ := entry
      rw [unwrapFields]
      by_cases matched : Data.isKey name key = true
      · simp only [Data.lookup?, matched, if_true, Option.isSome_some]
      · simpa only [Data.lookup?, if_neg matched] using ih

theorem lookup?_reserved {name : String} (asked : demands .full role view.kind = some wanted)
    (reserved : Node.isReserved (.text name) = true) (entries : Entries) :
    Data.lookup? name (unwrapFields elsewhere view wanted entries) = Data.lookup? name entries := by
  apply lookup?_unwrapFields_read
  · apply demandFor?_none
    intro demand member
    by_contra same
    simp only [Bool.not_eq_false] at same
    have key := Data.isKey_iff.mp same
    have free := demands_free asked demand member
    rw [key, reserved] at free
    cases free
  · simp [isRead, reserved]

theorem lookup?_bigint {name : String} (asked : demands .full role view.kind = some wanted)
    (kind : view.kind = some .bigIntLiteral) (numeral : name = "value" ∨ name = "raw")
    (entries : Entries) :
    Data.lookup? name (unwrapFields elsewhere view wanted entries) = Data.lookup? name entries := by
  rw [kind] at asked
  apply lookup?_unwrapFields_read
  · apply demandFor?_none
    intro demand member
    have apart := demands_bigint asked demand member
    rcases numeral with rfl | rfl
    · exact apart.1
    · exact apart.2
  · rcases numeral with rfl | rfl <;> simp [isRead, Node.isKind, kind, Data.isKey]

variable {entries : Entries}

theorem ofEntries_unwrapFields (opened : Node.ofEntries entries = .ok view)
    (asked : demands .full role view.kind = some wanted) :
    Node.ofEntries (unwrapFields elsewhere view wanted entries) =
      .ok { view with entries := unwrapFields elsewhere view wanted entries } := by
  unfold Node.ofEntries at opened ⊢
  rw [lookup?_reserved asked (by decide), lookup?_reserved asked (by decide)]
  obtain ⟨kind, tagged, opened⟩ := ok_of_bind opened
  obtain ⟨span, placed, opened⟩ := ok_of_bind opened
  cases opened
  rw [tagged, placed]
  rfl

theorem hasFields_unwrapFields (present : hasFields wanted entries = true) :
    hasFields wanted (unwrapFields elsewhere view wanted entries) = true := by
  simp only [hasFields, lookup?_isSome_unwrapFields] at present ⊢
  exact present

theorem writesBigint_unwrapFields (asked : demands .full role view.kind = some wanted)
    (kind : view.kind = some .bigIntLiteral) :
    writesBigint (unwrapFields elsewhere view wanted entries) = writesBigint entries := by
  unfold writesBigint
  rw [lookup?_bigint asked kind (.inl rfl), lookup?_bigint asked kind (.inr rfl)]

end Fields

section Wrapped

variable {wanted : List Demand} {view : Node}

theorem wrapped?_some (asked : demands .full .expression view.kind = some wanted)
    (follows : Follows .full wanted view) (wraps : isWrapper view.kind = true) :
    ∃ inner, wrapped? view.kind view.entries = some inner ∧ Formed .full .expression inner ∧
      ∀ table, eval table view = evalPart table inner := by
  by_cases awaits : view.kind = some .awaitExpression
  · rw [awaits] at asked
    cases asked
    obtain ⟨inner, reads, form⟩ := follows.given "argument" rfl
    refine ⟨inner, ?_, form, fun table => eval_passing table awaits rfl reads⟩
    rw [awaits]
    exact reads.found
  by_cases sequence : view.kind = some .sequenceExpression
  · rw [sequence] at asked
    cases asked
    obtain ⟨row, reads, list⟩ := follows.given "expressions" rfl
    obtain ⟨items, rfl, filled, each⟩ := oneOrMore_of_formed list
    have ends := List.getLast?_eq_some_getLast filled
    refine ⟨_, ?_, each _ (List.getLast_mem filled), fun table => ?_⟩
    · simp only [wrapped?, sequence, reads.found, ends]
    · exact eval_sequence table sequence reads ends
  cases tagged : view.kind with
  | none => simp [isWrapper, tagged] at wraps
  | some kind =>
      rw [tagged] at asked
      have transparent : isTransparent kind = true := by
        cases kind <;> simp_all [isWrapper]
      have demanded : wanted = [⟨"expression", .expression, false⟩] := by
        cases kind <;> simp [isTransparent] at transparent <;> cases asked <;> rfl
      subst demanded
      obtain ⟨inner, reads, form⟩ := follows.given "expression" rfl
      refine ⟨inner, ?_, form, fun table => ?_⟩
      · cases kind <;> simp [isTransparent] at transparent <;> exact reads.found
      · refine eval_passing table tagged ?_ reads
        cases kind <;> simp [isTransparent] at transparent <;> rfl

theorem wrapped?_none {kind : Option Kind} (other : isWrapper kind = false) (entries : Entries) :
    wrapped? kind entries = none := by
  cases kind with
  | none => rfl
  | some kind => cases kind <;> first | rfl | cases other

end Wrapped

section Trees

variable {elsewhere : Data → Data} {wanted : List Demand} {view : Node}

def unwrapView (elsewhere : Data → Data) (wanted : List Demand) (view : Node) : Node :=
  { view with entries := unwrapFields elsewhere view wanted view.entries }

theorem ofEntries_unwrapView {role : Role} {entries : Entries}
    (opened : Node.ofEntries entries = .ok view)
    (asked : demands .full role view.kind = some wanted) :
    Node.ofEntries (unwrapView elsewhere wanted view).entries =
      .ok (unwrapView elsewhere wanted view) := by
  have same := Node.entries_of_ofEntries opened
  subst same
  exact ofEntries_unwrapFields opened asked

theorem unwrap_map {role : Role} {entries : Entries} (changes : isKept role = false)
    (opened : Node.ofEntries entries = .ok view)
    (asked : demands .full role view.kind = some wanted) :
    unwrap elsewhere role (.map entries) =
      unwrapNode role view.kind (unwrapView elsewhere wanted view).entries := by
  rw [unwrap, if_neg (by simp [changes]), opened]
  dsimp only
  rw [asked, unwrapView, Node.entries_of_ofEntries opened]

theorem follows_unwrapView {role : Role} (asked : demands .full role view.kind = some wanted)
    (follows : Follows .full wanted view)
    (fields : formedFields .full wanted (unwrapView elsewhere wanted view).entries = true) :
    Follows .full wanted (unwrapView elsewhere wanted view) where
  present := hasFields_unwrapFields follows.present
  bigint kind := (writesBigint_unwrapFields asked kind).trans (follows.bigint kind)
  fields := fields

theorem wrapped?_unwrapView (asked : demands .full .expression view.kind = some wanted)
    (follows : Follows .full wanted (unwrapView elsewhere wanted view))
    (wraps : isWrapper view.kind = true) :
    ∃ inner, wrapped? view.kind (unwrapView elsewhere wanted view).entries = some inner ∧
      Formed .full .expression inner ∧
      ∀ table, eval table (unwrapView elsewhere wanted view) = evalPart table inner :=
  @wrapped?_some wanted (unwrapView elsewhere wanted view) asked follows wraps

theorem formed_unwrapNode {role : Role} {entries : Entries}
    (opened : Node.ofEntries entries = .ok view)
    (asked : demands .full role view.kind = some wanted)
    (follows : Follows .full wanted (unwrapView elsewhere wanted view)) :
    Formed .full role (unwrapNode role view.kind (unwrapView elsewhere wanted view).entries) := by
  have whole : Formed .full role (.map (unwrapView elsewhere wanted view).entries) :=
    formed_of_view (ofEntries_unwrapView opened asked) asked follows
  unfold unwrapNode
  split
  -- Only at the place of an expression does a node give way to what it wraps.
  · rename_i place
    subst place
    cases wraps : isWrapper view.kind with
    | true =>
        obtain ⟨inner, found, form, _⟩ := wrapped?_unwrapView asked follows wraps
        rw [found]
        exact form
    | false =>
        rw [wrapped?_none wraps]
        exact whole
  · exact whole

end Trees

section Grammar

variable {elsewhere : Data → Data}

theorem plain_lookup {wanted : List Demand} {entries : Entries} {name : String} {demand : Demand}
    {part : Data} (each : plainFields wanted entries = true)
    (demanded : demandFor? wanted (.text name) = some demand)
    (found : Data.lookup? name entries = some part) : plain demand.role part = true := by
  induction entries with
  | nil => cases found
  | cons entry rest ih =>
      obtain ⟨key, value⟩ := entry
      simp only [plainFields, Bool.and_eq_true] at each
      by_cases matched : Data.isKey name key = true
      · cases Data.isKey_iff.mp matched
        simp only [Data.lookup?, matched, if_true, Option.some.injEq] at found
        subst found
        simpa [demanded] using each.1
      · simp only [Data.lookup?, if_neg matched] at found
        exact ih each.2 found

theorem plainItems_iff {role : Role} {items : List Data} :
    plainItems role items = true ↔ ∀ item ∈ items, plain role item = true := by
  induction items with
  | nil => simp [plainItems]
  | cons item rest ih => simp [plainItems, ih]

theorem plain_wrapped? {wanted : List Demand} {kind : Option Kind} {entries : Entries}
    {inner : Data} (asked : demands .full .expression kind = some wanted)
    (each : plainFields wanted entries = true) (found : wrapped? kind entries = some inner) :
    plain .expression inner = true := by
  unfold wrapped? at found
  split at found
  · cases asked
    exact plain_lookup each rfl found
  · cases asked
    split at found
    · rename_i items row
      have all : plainItems .expression items = true := by
        rw [← plain]
        exact plain_lookup each rfl row
      exact plainItems_iff.mp all inner (List.mem_of_getLast? found)
    · cases found
  · split at found
    · rename_i kind _ _ transparent
      have demanded : wanted = [⟨"expression", .expression, false⟩] := by
        cases kind <;> simp [isTransparent] at transparent <;> cases asked <;> rfl
      subst demanded
      exact plain_lookup each rfl found
    · cases found
  · cases found

theorem plain_unwrapNode {role : Role} {view : Node} {wanted : List Demand} {entries : Entries}
    (opened : Node.ofEntries entries = .ok view)
    (asked : demands .full role view.kind = some wanted)
    (follows : Follows .full wanted (unwrapView elsewhere wanted view))
    (each : plainFields wanted (unwrapView elsewhere wanted view).entries = true) :
    plain role (unwrapNode role view.kind (unwrapView elsewhere wanted view).entries) = true := by
  have whole (other : role = .expression → isWrapper view.kind = false) :
      plain role (.map (unwrapView elsewhere wanted view).entries) = true := by
    rw [plain, ofEntries_unwrapView opened asked]
    have same : demands .full role (unwrapView elsewhere wanted view).kind = some wanted := asked
    simp only [same, each, Bool.and_true, Bool.or_eq_true]
    refine .inr ?_
    by_cases place : role = .expression
    · have kind : isWrapper (unwrapView elsewhere wanted view).kind = false := other place
      simp [kind]
    · simp [place]
  unfold unwrapNode
  split
  · rename_i place
    subst place
    cases wraps : isWrapper view.kind with
    | true =>
        obtain ⟨inner, found, _⟩ := wrapped?_unwrapView asked follows wraps
        rw [found]
        exact plain_wrapped? asked each found
    | false =>
        rw [wrapped?_none wraps]
        exact whole fun _ => wraps
  · rename_i place
    exact whole fun expression => absurd expression place

mutual

theorem unwrap_spec : ∀ {role : Role} {data : Data}, formed .full role data = true →
    formed .full role (unwrap elsewhere role data) = true ∧
      plain role (unwrap elsewhere role data) = true
  | role, .map entries, form => by
      cases kept : isKept role with
      | true =>
          rw [unwrap, if_pos kept, plain, kept, Bool.true_or]
          exact ⟨form, rfl⟩
      | false =>
          obtain ⟨view, wanted, opened, asked, follows⟩ := formed_view form
          have same := Node.entries_of_ofEntries opened
          have given := follows.fields
          rw [same] at given
          have fields : formedFields .full wanted
              (unwrapFields elsewhere view wanted entries) = true ∧
              plainFields wanted (unwrapFields elsewhere view wanted entries) = true :=
            unwrapFields_spec view given
          rw [← same] at fields
          have after := follows_unwrapView asked follows fields.1
          rw [unwrap_map kept opened asked]
          exact ⟨formed_unwrapNode opened asked after, plain_unwrapNode opened asked after fields.2⟩
  | role, .list items, form => by
      cases role with
      | many role =>
          rw [unwrap, formed, plain]
          exact unwrapItems_spec (by simpa [formed] using form)
      | oneOrMore role =>
          simp only [formed, Bool.and_eq_true] at form
          have each := unwrapItems_spec form.2
          rw [unwrap, formed, plain, each.1, Bool.and_true]
          refine ⟨?_, each.2⟩
          cases items with
          | nil => exact form.1
          | cons item rest => rfl
      | _ => simp [formed, formedScalar] at form
  | role, .null, form | role, .bool _, form | role, .int _, form | role, .float _, form
  | role, .text _, form | role, .bytes _, form | role, .moment _, form | role, .pair _ _, form
  | role, .set _, form | role, .cycle _, form => by
      cases role <;> exact ⟨form, rfl⟩

theorem unwrapFields_spec : ∀ (view : Node) {wanted : List Demand} {entries : Entries},
    formedFields .full wanted entries = true →
    formedFields .full wanted (unwrapFields elsewhere view wanted entries) = true ∧
      plainFields wanted (unwrapFields elsewhere view wanted entries) = true
  | _, _, [], _ => ⟨rfl, rfl⟩
  | view, wanted, (key, value) :: rest, form => by
      simp only [formedFields, Bool.and_eq_true] at form
      obtain ⟨formedRest, plainRest⟩ := unwrapFields_spec view form.2
      simp only [unwrapFields, formedFields, plainFields, formedRest, plainRest, Bool.and_true]
      cases demanded : demandFor? wanted key with
      | none => exact ⟨rfl, rfl⟩
      | some demand =>
          have first := form.1
          simp only [demanded, Bool.or_eq_true, Bool.and_eq_true] at first ⊢
          rcases first with ⟨optional, null⟩ | first
          · cases value with
            | null =>
                rw [unwrap_null]
                exact ⟨.inl ⟨optional, rfl⟩, by cases demand.role <;> rfl⟩
            | _ => cases null
          · exact (unwrap_spec first).imp .inr id

theorem unwrapItems_spec :
    ∀ {role : Role} {items : List Data}, formedItems .full role items = true →
    formedItems .full role (unwrapItems elsewhere role items) = true ∧
      plainItems role (unwrapItems elsewhere role items) = true
  | role, [], _ => ⟨rfl, rfl⟩
  | role, item :: rest, form => by
      simp only [formedItems, Bool.and_eq_true] at form
      obtain ⟨formedFirst, plainFirst⟩ := unwrap_spec form.1
      obtain ⟨formedRest, plainRest⟩ := unwrapItems_spec form.2
      simp only [unwrapItems, formedItems, plainItems, formedFirst, plainFirst,
        formedRest, plainRest]
      exact ⟨rfl, rfl⟩

end

end Grammar

end StyleFold.Fold
