import StyleFold.Proofs.Fold.Contribution
import StyleFold.Proofs.Fold.Totality

/-!
Template literals. The pieces of a template and what its expressions add stand in turns. Main
statement: a template is a text when all its expressions have a text to add, and unknown as soon as
one of them is unknown or has a text that hangs on something unknown. A piece counts with its cooked
text, but where that is empty the raw text takes its place.
-/

namespace StyleFold.Fold

section Insertions

/-- The text that a result adds to a template. -/
inductive Inserts : Result → String → Prop where
  | reference (id : Label) (span : Option Span) :
      Inserts (.reference id span) ("var(--" ++ id.plain ++ ")")
  | value {v : Value} {text : String} (span : Option Span) (spelled : v.text = .ok text) :
      Inserts (.value v span) text

/-- A result that adds nothing that is known. -/
inductive Obstructs : Result → Prop where
  | nonStatic : Obstructs .nonStatic
  | value {v : Value} {why : Refusal} (span : Option Span) (refused : v.text = .error why)
      (unknown : why.family = .indeterminate) : Obstructs (.value v span)
  | bare (v : Value) : Obstructs (.bare v)

/-- A value that has no text at all: an integer in it is too long, or a
malformed literal made it. -/
inductive Refuses : Result → Prop where
  | value {v : Value} {why : Refusal} (span : Option Span) (refused : v.text = .error why)
      (other : why.family ≠ .indeterminate) : Refuses (.value v span)

theorem insertion_inserts {result : Result} {text : String} (inserts : Inserts result text) :
    insertion result = .ok (some text) := by
  cases inserts with
  | reference id span => rfl
  | value span spelled => simp [insertion, spelled]

theorem insertion_obstructs {result : Result} (obstructs : Obstructs result) :
    insertion result = .ok none := by
  cases obstructs with
  | nonStatic => rfl
  | value span refused unknown => simp [insertion, refused, unknown]
  | bare v => rfl

theorem insertion_refuses {result : Result} (refuses : Refuses result) :
    ∃ fault, insertion result = .error fault := by
  cases refuses with
  | value span refused other => simp [insertion, refused, other]

theorem inserts_or_not (result : Result) :
    (∃ text, Inserts result text) ∨ Obstructs result ∨ Refuses result := by
  cases result with
  | nonStatic => exact .inr (.inl .nonStatic)
  | bare v => exact .inr (.inl (.bare v))
  | reference id span => exact .inl ⟨_, .reference id span⟩
  | value v span =>
      cases spelled : v.text with
      | ok text => exact .inl ⟨text, .value span spelled⟩
      | error why =>
          by_cases unknown : why.family = .indeterminate
          · exact .inr (.inl (.value span spelled unknown))
          · exact .inr (.inr (.value span spelled unknown))

def insertions : List Result → Except Fault (Option (List String))
  | [] => return some []
  | result :: rest => do
      match ← insertion result with
      | some text => return (← insertions rest).map (text :: ·)
      | none => return none

theorem insertions_inserts {result : Result} {text : String} (inserts : Inserts result text)
    (rest : List Result) :
    insertions (result :: rest) = (insertions rest).map (Option.map (text :: ·)) := by
  rw [insertions, insertion_inserts inserts, ok_bind]
  cases insertions rest <;> rfl

theorem insertions_obstructs {result : Result} (obstructs : Obstructs result) (rest : List Result) :
    insertions (result :: rest) = .ok none := by
  rw [insertions, insertion_obstructs obstructs]
  rfl

theorem insertions_refuses {result : Result} (refuses : Refuses result) (rest : List Result) :
    ∃ fault, insertions (result :: rest) = .error fault := by
  obtain ⟨fault, refused⟩ := insertion_refuses refuses
  exact ⟨fault, by rw [insertions, refused]; rfl⟩

theorem insertions_some {results : List Result} {texts : List String}
    (each : List.Forall₂ Inserts results texts) : insertions results = .ok (some texts) := by
  induction each with
  | nil => rfl
  | cons first _ ih =>
      rw [insertions_inserts first, ih]
      rfl

theorem exists_inserts {results : List Result}
    (plain : ∀ result ∈ results, ¬ Obstructs result ∧ ¬ Refuses result) :
    ∃ texts, List.Forall₂ Inserts results texts := by
  induction results with
  | nil => exact ⟨[], .nil⟩
  | cons result rest ih =>
      obtain ⟨texts, each⟩ := ih fun other member => plain other (by simp [member])
      obtain ⟨known, regular⟩ := plain result (by simp)
      rcases inserts_or_not result with ⟨text, inserts⟩ | obstructs | refuses
      · exact ⟨text :: texts, .cons inserts each⟩
      · exact absurd obstructs known
      · exact absurd refuses regular

theorem insertions_none {results : List Result} :
    insertions results = .ok none ↔ ∃ before result after, results = before ++ result :: after ∧
      Obstructs result ∧ ∀ earlier ∈ before, ¬ Refuses earlier := by
  induction results with
  | nil => simp [insertions, pure, Except.pure]
  | cons first rest ih =>
      rcases inserts_or_not first with ⟨text, inserts⟩ | obstructs | refuses
      · have passes : insertions (first :: rest) = .ok none ↔ insertions rest = .ok none := by
          rw [insertions_inserts inserts]
          cases insertions rest with
          | error fault => simp [Except.map]
          | ok found => cases found <;> simp [Except.map]
        have regular : ¬ Refuses first := by
          intro refuses
          obtain ⟨fault, refused⟩ := insertion_refuses refuses
          rw [insertion_inserts inserts] at refused
          cases refused
        have known : ¬ Obstructs first := by
          intro obstructs
          have unknown := insertion_obstructs obstructs
          rw [insertion_inserts inserts] at unknown
          cases unknown
        rw [passes, ih]
        constructor
        · rintro ⟨before, result, after, rfl, obstructs, earlier⟩
          refine ⟨first :: before, result, after, rfl, obstructs, ?_⟩
          simpa [regular] using earlier
        · rintro ⟨before, result, after, split, obstructs, earlier⟩
          cases before with
          | nil =>
              cases split
              exact absurd obstructs known
          | cons other before =>
              cases split
              exact ⟨before, result, after, rfl, obstructs, fun item member =>
                earlier item (by simp [member])⟩
      · rw [insertions_obstructs obstructs]
        exact iff_of_true rfl ⟨[], first, rest, rfl, obstructs, by simp⟩
      -- Evaluation stops here, whatever is unknown further on.
      · obtain ⟨fault, refused⟩ := insertions_refuses refuses rest
        rw [refused]
        refine iff_of_false (by simp) ?_
        rintro ⟨before, result, after, split, obstructs, earlier⟩
        cases before with
        | nil =>
            cases split
            rw [insertions_obstructs obstructs] at refused
            cases refused
        | cons other before =>
            cases split
            exact earlier first (by simp) refuses

end Insertions

section Pieces

variable {table : ScopeTable}

/-- The text of a piece whose cooked text is given. An empty one gives way to the raw text. -/
inductive Piece : Data → String → Prop where
  | cooked {entries : Entries} {view : Node} {text : String}
      (opened : Node.ofEntries entries = .ok view) (kind : view.kind = some .templateElement)
      (cooked : Reads view "cooked" (.text text)) (there : text ≠ "") : Piece (.map entries) text
  | raw {entries : Entries} {view : Node} {text : String}
      (opened : Node.ofEntries entries = .ok view) (kind : view.kind = some .templateElement)
      (cooked : Reads view "cooked" (.text "")) (raw : Reads view "raw" (.text text)) :
      Piece (.map entries) text
  | empty {entries : Entries} {view : Node} (opened : Node.ofEntries entries = .ok view)
      (kind : view.kind = some .templateElement) (cooked : Reads view "cooked" (.text ""))
      (lacks : Lacks view "raw") : Piece (.map entries) ""

theorem Piece.evalPart {piece : Data} {text : String} (written : Piece piece text)
    (table : ScopeTable) : ∃ span, evalPart table piece = .ok (.value (.string text) span) := by
  cases written with
  | @cooked entries view _ opened kind cooked there =>
      refine ⟨view.span, ?_⟩
      rw [evalPart_map table opened, eval_piece table kind, pieceValue, cooked.field? (by simp)]
      simp [isEmptyPart, there, literalValue, bind, Except.bind, pure, Except.pure]
  | @raw entries view _ opened kind cooked raw =>
      refine ⟨view.span, ?_⟩
      rw [evalPart_map table opened, eval_piece table kind, pieceValue, cooked.field? (by simp),
        raw.field? (by simp)]
      simp [isEmptyPart, literalValue, bind, Except.bind, pure, Except.pure]
  | @empty entries view opened kind cooked lacks =>
      refine ⟨view.span, ?_⟩
      rw [evalPart_map table opened, eval_piece table kind, pieceValue, cooked.field? (by simp),
        lacks.field?]
      simp [isEmptyPart, bind, Except.bind, pure, Except.pure]

theorem joinPieces_piece {piece : Data} {text : String} (written : Piece piece text)
    (rest expressions : List Data) (done : List String) :
    joinPieces table (piece :: rest) expressions done =
      match expressions with
      | [] => joinPieces table rest [] (done ++ [text])
      | expression :: others => do
          match ← insertion (← Fold.evalPart table expression) with
          | some inner => joinPieces table rest others (done ++ [text, inner])
          | none => return none := by
  obtain ⟨span, folded⟩ := written.evalPart table
  rw [joinPieces, folded]
  rfl

/-- Expressions that have results. -/
def Evaluated (table : ScopeTable) (expressions : List Data) (results : List Result) : Prop :=
  List.Forall₂ (fun expression result => Fold.evalPart table expression = .ok result)
    expressions results

theorem joinPieces_evaluated {pieces expressions : List Data} {first : String} {rest : List String}
    {results : List Result} (written : List.Forall₂ Piece pieces (first :: rest))
    (evaluated : Evaluated table expressions results) (count : rest.length = results.length)
    (done : List String) :
    joinPieces table pieces expressions done =
      (insertions results).map (Option.map fun texts =>
        String.join done ++ (first ++ String.join (List.zipWith (· ++ ·) texts rest))) := by
  -- Each expression takes up the piece before it, so that one piece is left when there are no more.
  induction evaluated generalizing pieces first rest done with
  | nil =>
      rw [List.length_nil, List.length_eq_zero_iff] at count
      subst count
      obtain ⟨piece, later, own, nothing, rfl⟩ := List.forall₂_cons_right_iff.mp written
      cases nothing
      rw [joinPieces_piece own]
      simp [joinPieces, insertions, pure, Except.pure, Except.map]
  | @cons expression result others results folded evaluated ih =>
      obtain ⟨second, rest, rfl⟩ : ∃ second later, rest = second :: later :=
        List.exists_cons_of_length_eq_add_one count
      obtain ⟨piece, pieces, own, behind, rfl⟩ := List.forall₂_cons_right_iff.mp written
      rw [joinPieces_piece own]
      simp only [folded, ok_bind]
      rcases inserts_or_not result with ⟨inner, inserts⟩ | obstructs | refuses
      · rw [insertion_inserts inserts, ok_bind]
        simp only
        rw [ih behind (by simpa using count), insertions_inserts inserts]
        cases insertions results with
        | error fault => rfl
        | ok found =>
            cases found with
            | none => rfl
            | some texts => simp [Except.map, String.append_assoc]
      · rw [insertion_obstructs obstructs, insertions_obstructs obstructs]
        rfl
      · obtain ⟨fault, refused⟩ := insertion_refuses refuses
        rw [insertions, refused]
        rfl

theorem check_of_evalPart {data : Data} {result : Result} (run : evalPart table data = .ok result) :
    Node.check data = .ok () := by
  rw [Fold.evalPart] at run
  obtain ⟨view, operand, _⟩ := ok_of_bind run
  obtain ⟨entries, rfl, opened⟩ := opened_of_openOr operand
  exact check_opened opened

/-- A row can be read when every item of it is related to something that makes it sound. -/
theorem checkAll_of_each {Other : Type} {relation : Data → Other → Prop} {items : List Data}
    {others : List Other} (each : List.Forall₂ relation items others)
    (sound : ∀ item other, relation item other → Node.check item = .ok ()) :
    Node.checkAll items = .ok () := by
  induction each with
  | nil => rfl
  | cons first _ ih =>
      rw [Node.checkAll, sound _ _ first]
      exact ih

/-- The texts of formed expressions are refused for nothing else than that
they would be too long. -/
theorem overlong_of_formed {expressions : List Data} {results : List Result}
    (evaluated : Evaluated table expressions results)
    (form : ∀ expression ∈ expressions, Formed .full .expression expression) :
    ∀ result ∈ results, Refuses result →
      ∃ v span, result = .value v span ∧ v.text = .error .tooManyDigits := by
  induction evaluated with
  | nil => simp
  | @cons expression first _ _ run _ ih =>
      have clean := answers_formed table expression (sizeOf expression + 1) expression .here
        (Nat.lt_succ_self _) (form expression (by simp))
      rw [run] at clean
      intro result member refuses
      rcases List.mem_cons.mp member with rfl | later
      · cases refuses with
        | @value v why span refused other =>
            rcases text_clean clean refused with family | rfl
            · exact absurd family other
            · exact ⟨v, span, rfl, refused⟩
      · exact ih (fun other inside => form other (by simp [inside])) result later refuses

end Pieces

section Templates

variable {table : ScopeTable}

/-- A template whose expressions are evaluated is unknown when one of them adds nothing that is
known, and otherwise its first piece followed by what each expression adds and the piece behind
it. An expression may also stop the evaluation, but of the formed ones only one whose text
would be too long does. -/
theorem eval_template_evaluated {node : Node} {pieces expressions : List Data} {first : String}
    {rest : List String} {results : List Result} (kind : node.kind = some .templateLiteral)
    (quasis : Data.lookup? "quasis" node.entries = some (.list pieces))
    (inner : Data.lookup? "expressions" node.entries = some (.list expressions) ∨
      (Lacks node "expressions" ∧ expressions = []))
    (written : List.Forall₂ Piece pieces (first :: rest))
    (evaluated : Evaluated table expressions results) (count : rest.length = expressions.length) :
    (eval table node = .ok .nonStatic ↔ ∃ before result after, results = before ++ result :: after ∧
      Obstructs result ∧ ∀ earlier ∈ before, ¬ Refuses earlier) ∧
    ((∀ result ∈ results, ¬ Obstructs result ∧ ¬ Refuses result) →
      ∃ texts, List.Forall₂ Inserts results texts ∧ eval table node =
        .ok (.value (.string (first ++ String.join (List.zipWith (· ++ ·) texts rest)))
          node.span)) ∧
    ((∀ expression ∈ expressions, Formed .full .expression expression) →
      ∀ result ∈ results, Refuses result →
      ∃ v span, result = .value v span ∧ v.text = .error .tooManyDigits) := by
  have quasis : Reads node "quasis" (.list pieces) :=
    (reads_list quasis).mpr (checkAll_of_each written fun piece text own =>
      check_of_evalPart (own.evalPart table).choose_spec)
  have inner : Reads node "expressions" (.list expressions) ∨
      (Lacks node "expressions" ∧ expressions = []) :=
    inner.imp_left fun found => (reads_list found).mpr
      (checkAll_of_each evaluated fun expression result run => check_of_evalPart run)
  have joined := joinPieces_evaluated written evaluated (count.trans evaluated.length_eq) []
  refine ⟨?_, ?_, overlong_of_formed evaluated⟩
  · rw [← insertions_none, eval_template table kind quasis inner, joined]
    cases insertions results with
    | error fault => simp [Except.map, bind, Except.bind]
    | ok found => cases found <;> simp [Except.map, bind, Except.bind, pure, Except.pure]
  · intro plain
    obtain ⟨texts, each⟩ := exists_inserts plain
    refine ⟨texts, each, ?_⟩
    rw [eval_template table kind quasis inner, joined, insertions_some each]
    simp [Except.map, bind, Except.bind, pure, Except.pure]

def pieceData (cooked raw : String) : Data :=
  taggedData "TemplateElement" [("cooked", .text cooked), ("raw", .text raw)]

def templateData (pieces expressions : List Data) : Data :=
  taggedData "TemplateLiteral" [("quasis", .list pieces), ("expressions", .list expressions)]

def templateNode (pieces expressions : List Data) : Node :=
  ⟨some .templateLiteral, none, [(.text "type", .text "TemplateLiteral"),
    (.text "quasis", .list pieces), (.text "expressions", .list expressions)]⟩

theorem evaluate_templateData (pieces expressions : List Data) :
    evaluate table (templateData pieces expressions) =
      eval table (templateNode pieces expressions) := by
  rw [templateData, taggedData, evaluate_map]
  exact evalPart_map table rfl

theorem piece_cooked {cooked : String} (there : cooked ≠ "") (raw : String) :
    Piece (pieceData cooked raw) cooked :=
  .cooked rfl rfl ⟨rfl, rfl⟩ there

theorem piece_raw (raw : String) : Piece (pieceData "" raw) raw :=
  .raw rfl rfl ⟨rfl, rfl⟩ ⟨rfl, rfl⟩

/-- A name is read as a custom property, and a call of another function is unknown. -/
theorem eval_template_of_name_and_call :
    evaluate {} (templateData [pieceData "" "", pieceData "px" "px"] [nameData "color"]) =
      .ok (.value (.string "var(--color)px") none) ∧
    evaluate {} (templateData [pieceData "" "", pieceData "px" "px"] [callData (nameData "f")]) =
      .ok .nonStatic := by
  have written : List.Forall₂ Piece [pieceData "" "", pieceData "px" "px"] ["", "px"] :=
    .cons (piece_raw "") (.cons (piece_cooked (by simp) "px") .nil)
  constructor
  · have named : Evaluated {} [nameData "color"] [.reference (.text "color") none] := by
      refine .cons ?_ .nil
      rw [nameData, taggedData, evalPart_map {} rfl, eval_identifier {} rfl ⟨rfl, rfl⟩]
      rfl
    have plain : ∀ result ∈ [Result.reference (.text "color") none],
        ¬ Obstructs result ∧ ¬ Refuses result := by
      intro result member
      rw [List.mem_singleton.mp member]
      constructor
      · intro obstructs
        cases obstructs
      · intro refuses
        cases refuses
    obtain ⟨texts, each, run⟩ := (@eval_template_evaluated {} (templateNode _ _) _ _ "" ["px"] _
      rfl rfl (.inl rfl) written named rfl).2.1 plain
    rw [evaluate_templateData, run]
    cases each with
    | cons first later =>
        cases later
        cases first
        rfl
  · have called : Evaluated {} [callData (nameData "f")] [.nonStatic] := by
      refine .cons ?_ .nil
      have call : evaluate {} (callData (nameData "f")) = .ok .nonStatic := evaluate_callData rfl
      rwa [callData, taggedData, evaluate_map] at call
    rw [evaluate_templateData]
    exact (eval_template_evaluated rfl rfl (.inl rfl) written called rfl).1.mpr
      ⟨[], .nonStatic, [], rfl, .nonStatic, by simp⟩

theorem evaluate_single_piece {piece : Data} {text : String} (written : Piece piece text)
    (sound : Node.check piece = .ok ()) :
    evaluate {} (templateData [piece] []) = .ok (.value (.string text) none) := by
  have quasis : Reads (templateNode [piece] []) "quasis" (.list [piece]) :=
    ⟨rfl, by simp [Node.check, Node.checkAll, sound]⟩
  rw [evaluate_templateData, eval_template {} rfl quasis (.inl ⟨rfl, rfl⟩),
    joinPieces_evaluated (.cons written .nil) .nil rfl]
  simp [templateNode, insertions, bind, Except.bind, pure, Except.pure, Except.map]

/-- The raw text shows where the cooked text is empty: a line that only goes on has no cooked text,
but its backslash is written. -/
theorem raw_text_shows :
    (¬ ∀ cooked raw, evaluate {} (templateData [pieceData cooked raw] []) =
      .ok (.value (.string cooked) none)) ∧
    (¬ ∀ cooked raw other, evaluate {} (templateData [pieceData cooked raw] []) =
      evaluate {} (templateData [pieceData cooked other] [])) := by
  have continued := evaluate_single_piece (piece_raw "\\\n") rfl
  constructor
  · intro claimed
    exact absurd (continued.symm.trans (claimed "" "\\\n")) (by simp)
  · intro claimed
    have empty := evaluate_single_piece (piece_raw "") rfl
    exact absurd (continued.symm.trans ((claimed "" "\\\n" "").trans empty)) (by simp)

end Templates

end StyleFold.Fold
