import StyleFold.Proofs.Fold.Shape

/-!
Callees of the fallback helper. A formed callee is always told apart, and it stands for the
helper only by names: a local name that it was imported under, or its own name as a member
of a name for the library.
-/

namespace StyleFold.Fold

def IsName (data : Data) (name : String) : Prop :=
  ∃ entries view, data = .map entries ∧ Node.ofEntries entries = .ok view ∧
    view.kind = some .identifier ∧ Reads view "value" (.text name)

inductive Recognised (table : ScopeTable) (callee : Node) : Prop where
  | binding {s : String} (kind : callee.kind = some .identifier)
      (value : Reads callee "value" (.text s))
      (imported : table.api? (.text s) = some .firstThatWorks)
  | member {object property : Data} {s t : String} (kind : callee.kind = some .memberExpression)
      (base : Reads callee "object" object) (named : Reads callee "property" property)
      (library : IsName object s) (known : table.isNamespace (.text s) = true)
      (helper : IsName property t) (api : Api.ofName? t = some .firstThatWorks)

variable {fragment : Fragment} {table : ScopeTable}

theorem calledApi?_recognised {callee : Node} (recognised : Recognised table callee) :
    table.calledApi? callee = .ok (some .firstThatWorks) := by
  cases recognised with
  | binding kind value imported =>
      rw [ScopeTable.calledApi?, kind]
      simp only [value.label (by decide), ok_bind]
      exact congrArg Except.ok imported
  | member kind base named library known helper api =>
      obtain ⟨_, baseView, rfl, baseOpened, baseKind, baseValue⟩ := library
      obtain ⟨_, memberView, rfl, memberOpened, memberKind, memberValue⟩ := helper
      rw [ScopeTable.calledApi?, kind]
      simp only [base.field (by decide), named.field (by decide), ok_bind, Node.expect,
        openOr_eq baseOpened, openOr_eq memberOpened, ScopeTable.isLibraryName, Node.isKind,
        baseKind, memberKind, baseValue.label (by decide), Node.word?,
        memberValue.field (by decide)]
      simp [Label.ofData, Label.key, Label.canKey, ok_bind, known, api]
      rfl

theorem name_of_formed {role : Role} {entries : Entries} {view : Node}
    (place : role = .expression ∨ role = .callee ∨ role = .member)
    (form : Formed fragment role (.map entries)) (opened : Node.ofEntries entries = .ok view)
    (kind : view.kind = some .identifier) : ∃ s, Reads view "value" (.text s) := by
  obtain ⟨other, wanted, again, asked, follows⟩ := formed_view form
  rw [opened] at again
  cases again
  have same : wanted = [⟨"value", .text, false⟩] := by
    rcases place with rfl | rfl | rfl <;> simpa [kind, demands, expressionDemands] using asked.symm
  subst same
  obtain ⟨part, reads, text⟩ := follows.given "value" rfl
  obtain ⟨s, rfl⟩ := text_of_formed text
  exact ⟨s, reads⟩

theorem isLibraryName_answers (table : ScopeTable) {entries : Entries} {view : Node}
    (form : Formed fragment .expression (.map entries))
    (opened : Node.ofEntries entries = .ok view) :
    ∃ answer, table.isLibraryName view = .ok answer ∧
      (answer = true → ∃ s, IsName (.map entries) s ∧ table.isNamespace (.text s) = true) := by
  unfold ScopeTable.isLibraryName
  by_cases kind : view.kind = some .identifier
  · obtain ⟨s, reads⟩ := name_of_formed (.inl rfl) form opened kind
    simp only [Node.isKind, kind, beq_self_eq_true, Bool.not_true, Bool.false_eq_true, if_false,
      reads.label (by decide), ok_bind]
    refine ⟨_, rfl, fun known => ⟨s, ?_, known⟩⟩
    exact ⟨entries, view, rfl, opened, kind, reads⟩
  · have other : (!view.isKind .identifier) = true := by simpa [Node.isKind] using kind
    rw [if_pos other]
    exact ⟨false, rfl, by simp⟩

theorem calledApi?_answers (table : ScopeTable) {entries : Entries} {callee : Node}
    (form : Formed fragment .callee (.map entries)) (opened : Node.ofEntries entries = .ok callee) :
    ∃ answer, table.calledApi? callee = .ok answer ∧
      (answer = some .firstThatWorks → Recognised table callee) := by
  obtain ⟨view, wanted, again, asked, follows⟩ := formed_view form
  rw [opened] at again
  cases again
  unfold ScopeTable.calledApi?
  -- A member of the library or a name imported from it; any other callee is not recognised.
  by_cases member : callee.kind = some .memberExpression
  · rw [member] at asked
    cases asked
    obtain ⟨object, base, objectForm⟩ := follows.given "object" rfl
    obtain ⟨property, named, memberForm⟩ := follows.given "property" rfl
    obtain ⟨objectEntries, rfl⟩ := map_of_formed rfl objectForm
    obtain ⟨memberEntries, rfl⟩ := map_of_formed rfl memberForm
    obtain ⟨baseView, _, baseOpened, _, _⟩ := formed_view objectForm
    obtain ⟨memberView, _, memberOpened, _, _⟩ := formed_view memberForm
    obtain ⟨library, asksLibrary, named_of⟩ := isLibraryName_answers table objectForm baseOpened
    simp only [member, base.field (by decide), named.field (by decide), ok_bind, Node.expect,
      openOr_eq baseOpened, openOr_eq memberOpened, asksLibrary]
    cases library with
    | false => exact ⟨none, rfl, by simp⟩
    | true =>
    obtain ⟨s, isLibrary, known⟩ := named_of rfl
    by_cases name : memberView.kind = some .identifier
    · obtain ⟨t, reads⟩ := name_of_formed (.inr (.inr rfl)) memberForm memberOpened name
      simp only [Bool.not_true, Bool.false_eq_true, if_false, Node.isKind, name, beq_self_eq_true,
        Node.word?, reads.field (by decide), ok_bind]
      refine ⟨_, rfl, fun helper => ?_⟩
      exact .member member base named isLibrary known
        ⟨memberEntries, memberView, rfl, memberOpened, name, reads⟩ helper
    · have other : (!memberView.isKind .identifier) = true := by simpa [Node.isKind] using name
      simp only [Bool.not_true, Bool.false_eq_true, if_false, other, if_true]
      exact ⟨none, rfl, by simp⟩
  · by_cases name : callee.kind = some .identifier
    · obtain ⟨s, reads⟩ := name_of_formed (.inr (.inl rfl)) form opened name
      simp only [name, reads.label (by decide), ok_bind]
      exact ⟨_, rfl, fun imported => .binding name reads imported⟩
    · split
      · exact absurd ‹_› member
      · exact absurd ‹_› name
      · exact ⟨none, rfl, by simp⟩

def isFallback (table : ScopeTable) (data : Data) : Bool :=
  match Node.ofData data with
  | .ok view =>
      match table.calledApi? view with
      | .ok (some .firstThatWorks) => true
      | _ => false
  | .error _ => false

theorem isFallback_map {entries : Entries} {callee : Node} {api : Option Api}
    (opened : Node.ofEntries entries = .ok callee) (answered : table.calledApi? callee = .ok api) :
    isFallback table (.map entries) = decide (api = some .firstThatWorks) := by
  simp only [isFallback, Node.ofData, opened, answered]
  cases api with
  | none => rfl
  | some api => cases api <;> rfl

end StyleFold.Fold
