import ClauseTree.Proofs.Query
import ClauseTree.Proofs.StatementPrinting
import ClauseTree.Proofs.TreeTemplate

/-!
# Set operations as they are read

The operand of a set operation is written without parentheses.  So it is read together with
what stands around it: its first operand stands behind the operator, its own operators
follow as if they had been written there, and what sorts, limits or locks its rows does so
for the whole.  A query with named queries cannot stand there at all.

It comes to the same where the operand has no clauses at its end and no operators, or only
such operators as bind tighter than the one in front of it.
-/

namespace ClauseTree

namespace Sql

/-! ### One query behind another -/

private theorem Part.eq_of_spells {part : Part} {first second : String}
    (spellsFirst : part.spells first = true) (spellsSecond : part.spells second = true) :
    first = second := by
  match part with
  | .lexeme (.word chars) =>
      simp only [Part.spells, Lexeme.spells, beq_iff_eq] at spellsFirst spellsSecond
      exact String.toList_inj.mp (spellsFirst.symm.trans spellsSecond)

private theorem Part.not_spells_of_isHead {part : Part} (head : part.isHead = true)
    {keyword : String} (other : keyword ∉ ["SELECT", "VALUES", "TABLE"]) :
    part.spells keyword = false := by
  obtain ⟨word, member, spells⟩ := List.any_eq_true.mp head
  refine Bool.eq_false_iff.mpr fun both => other ?_
  rw [Part.eq_of_spells both spells]
  exact member

private theorem components_append : ∀ first second : List Part,
    components (first ++ second) = components first ++ components second
  | [], _ => rfl
  | part :: rest, second => by
      rw [List.cons_append, components, components_append rest, components, List.cons_append]

private theorem operand?_head {operand : List Component} {query : Query}
    (read : operand? operand = some query) :
    ∃ head rest, operand = head :: rest ∧
      ∀ keyword ∉ ["SELECT", "VALUES", "TABLE"], head.part.spells keyword = false := by
  rw [operand?.eq_def] at read
  split at read
  next bracket parts _ => exact ⟨_, _, rfl, fun _ _ => rfl⟩
  next head rest _ =>
      split at read
      next isHead => exact ⟨head, rest, rfl, fun _ => Part.not_spells_of_isHead isHead⟩
      next => cases read
  next => cases read

private theorem Split.first_of_named {split : Split} (named : split.named ≠ []) :
    ∃ head rest, split.first = head :: rest ∧ head.part.spells "WITH" = true := by
  rw [Split.named] at named
  split at named
  next begins =>
      obtain ⟨head, found, spells⟩ := (Option.any_eq_true _ _).mp begins
      obtain ⟨rest, eq⟩ := List.head?_eq_some_iff.mp found
      exact ⟨head, rest, eq, spells⟩
  next => exact absurd rfl named

/-- Named queries make no operand. -/
theorem operand?_of_named {head : Component} {rest : List Component}
    (named : head.part.spells "WITH" = true) : operand? (head :: rest) = none := by
  have notHead : ¬ head.part.isHead = true := fun isHead =>
    absurd named (Bool.eq_false_iff.mp (Part.not_spells_of_isHead isHead (by decide)))
  match head with
  | ⟨.lexeme word, query⟩ => exact if_neg notHead

/-- A split that ends with an operand goes on at an operator. -/
theorem split?_append {others : List Component} {behind : Split}
    (readOthers : split? others = some behind) (starts : behind.first = []) :
    ∀ {left : List Component} {split : Split}, split? left = some split →
      split.trailing = [] →
      split? (left ++ others) =
        some
          { first := split.first
            rest := split.rest ++ behind.rest
            trailing := behind.trailing }
  | [], _, read, _ => by
      cases read
      rw [List.nil_append, readOthers, ← starts]
      rfl
  | head :: rest, split, read, closed => by
      -- By the role of the first component, as `split?` has one equation for each role.
      cases joint : head.part.joint with
      | operator word =>
          rw [split?_operator rest joint] at read
          obtain ⟨inner, readInner, rfl⟩ := Option.map_eq_some_iff.mp read
          have ih := split?_append readOthers starts readInner closed
          rw [List.cons_append, split?_operator _ joint, ih]
          rfl
      | trailing =>
          rw [split?_trailing rest joint] at read
          split at read
          · cases read
            exact absurd closed (List.cons_ne_nil _ _)
          · cases read
      | stop =>
          rw [split?_stop rest joint] at read
          cases read
      | label =>
          match rest with
          | [] =>
              rw [split?_label_nil joint] at read
              cases read
          | label :: rest =>
              rw [split?_label rest joint] at read
              obtain ⟨inner, readInner, rfl⟩ := Option.map_eq_some_iff.mp read
              have ih := split?_append readOthers starts readInner closed
              rw [List.cons_append, List.cons_append, split?_label _ joint, ih]
              rfl
      | operand =>
          rw [split?_operand rest joint] at read
          obtain ⟨inner, readInner, rfl⟩ := Option.map_eq_some_iff.mp read
          have ih := split?_append readOthers starts readInner closed
          rw [List.cons_append, split?_operand _ joint, ih]
          rfl

def Part.ofWord (word : String) : Part :=
  .lexeme (.word word.toList)

/-- The first operand behind an operator. -/
def Split.operation (operator : SetOperator) (split : Split) : Split :=
  { first := [], rest := (operator, split.first) :: split.rest, trailing := split.trailing }

section

variable {right : List Component} {split : Split} {head : Component} {rest : List Component}

private theorem split?_words (read : split? right = some split) (first : split.first = head :: rest)
    (notAll : head.part.spells "ALL" = false) (notDistinct : head.part.spells "DISTINCT" = false)
    {word : SetWord} (joint : (Part.ofWord word.keyword).joint = .operator word) :
    split? (components ([word.keyword].map Part.ofWord) ++ right) =
        some (split.operation word.plain) ∧
      split? (components ([word.keyword, "ALL"].map Part.ofWord) ++ right) =
        some (split.operation word.all) ∧
      split? (components ([word.keyword, "DISTINCT"].map Part.ofWord) ++ right) =
        some (split.operation word.distinct) := by
  have quantified {text : String} (joint : (Part.ofWord text).joint = .operand) :
      split? (⟨Part.ofWord text, none⟩ :: right) =
        some (split.extend [⟨Part.ofWord text, none⟩]) := by
    rw [split?_operand right joint, read]
    rfl
  have all := quantified (show (Part.ofWord "ALL").joint = .operand from rfl)
  have distinct := quantified (show (Part.ofWord "DISTINCT").joint = .operand from rfl)
  have behind (others : List Component) :
      split? (⟨Part.ofWord word.keyword, none⟩ :: others) =
        (split? others).map (.behind word) :=
    split?_operator others joint
  refine ⟨?_, ?_, ?_⟩
  · refine (behind right).trans ?_
    rw [read, Option.map_some, Split.behind, first]
    simp [notAll, notDistinct, Split.operation, first]
  · refine (behind (⟨Part.ofWord "ALL", none⟩ :: right)).trans ?_
    rw [all]
    rfl
  · refine (behind (⟨Part.ofWord "DISTINCT", none⟩ :: right)).trans ?_
    rw [distinct]
    rfl

/-- The words of a set operator in front of a readable text make an operand of that text. -/
theorem split?_operation (operator : SetOperator) (read : split? right = some split)
    (first : split.first = head :: rest) (notAll : head.part.spells "ALL" = false)
    (notDistinct : head.part.spells "DISTINCT" = false) :
    split? (components (operator.words.map Part.ofWord) ++ right) =
      some (split.operation operator) := by
  have union := split?_words read first notAll notDistinct
    (show (Part.ofWord SetWord.union.keyword).joint = .operator .union from rfl)
  have intersect := split?_words read first notAll notDistinct
    (show (Part.ofWord SetWord.intersect.keyword).joint = .operator .intersect from rfl)
  have except := split?_words read first notAll notDistinct
    (show (Part.ofWord SetWord.except.keyword).joint = .operator .except from rfl)
  cases operator with
  | union => exact union.1
  | unionAll => exact union.2.1
  | unionDistinct => exact union.2.2
  | intersect => exact intersect.1
  | intersectAll => exact intersect.2.1
  | intersectDistinct => exact intersect.2.2
  | except => exact except.1
  | exceptAll => exact except.2.1
  | exceptDistinct => exact except.2.2

end

private theorem Split.outline?_eq_some_iff {split : Split} {outline : Outline} :
    split.outline? = some outline ↔
      operand? (split.first.drop split.named.length) = some outline.first ∧
        (split.rest.mapM fun operand => (operand? operand.2).map (operand.1, ·)) =
          some outline.rest ∧
        split.named.map Component.part = outline.named ∧
        split.trailing.map Component.part = outline.trailing := by
  constructor
  · intro read
    obtain ⟨first, readFirst, read⟩ := Option.bind_eq_some_iff.mp read
    obtain ⟨rest, readRest, read⟩ := Option.bind_eq_some_iff.mp read
    cases read
    exact ⟨readFirst, readRest, rfl, rfl⟩
  · rintro ⟨readFirst, readRest, named, trailing⟩
    rw [Split.outline?, readFirst, readRest, named, trailing]
    rfl

/-- The operands of a query behind a set operator are operands beside the ones in front of
it, and what stands at its end stands at the end of the whole.  With named queries it cannot
stand there. -/
theorem outline?_operation {left right : List Part} {l r : Outline} (operator : SetOperator)
    (readLeft : outline? left = some l) (ended : l.trailing = [])
    (readRight : outline? right = some r) :
    outline? (left ++ operator.words.map Part.ofWord ++ right) =
      if r.named.isEmpty then
        some { l with rest := l.rest ++ (operator, r.first) :: r.rest, trailing := r.trailing }
      else none := by
  obtain ⟨leftSplit, splitLeft, outlineLeft⟩ := Option.bind_eq_some_iff.mp readLeft
  obtain ⟨rightSplit, splitRight, outlineRight⟩ := Option.bind_eq_some_iff.mp readRight
  obtain ⟨leftFirst, leftRest, leftNamed, leftTrailing⟩ := Split.outline?_eq_some_iff.mp outlineLeft
  obtain ⟨rightFirst, rightRest, rightNamed, rightTrailing⟩ :=
    Split.outline?_eq_some_iff.mp outlineRight
  have closed : leftSplit.trailing = [] := List.map_eq_nil_iff.mp (leftTrailing.trans ended)
  -- Behind the operator `ALL` and `DISTINCT` would be read with it, and no operand starts so.
  have whole {head : Component} {rest : List Component} (first : rightSplit.first = head :: rest)
      (notAll : head.part.spells "ALL" = false)
      (notDistinct : head.part.spells "DISTINCT" = false) :
      outline? (left ++ operator.words.map Part.ofWord ++ right) =
        Split.outline?
          { first := leftSplit.first
            rest := leftSplit.rest ++ (operator, rightSplit.first) :: rightSplit.rest
            trailing := rightSplit.trailing } := by
    have operation := split?_operation operator splitRight first notAll notDistinct
    rw [outline?, List.append_assoc, components_append, components_append,
      split?_append operation rfl splitLeft closed]
    rfl
  by_cases named : rightSplit.named = []
  · rw [named] at rightFirst rightNamed
    obtain ⟨head, rest, first, other⟩ := operand?_head rightFirst
    rw [whole first (other _ (by decide)) (other _ (by decide)), ← rightNamed]
    refine Split.outline?_eq_some_iff.mpr ⟨leftFirst, ?_, leftNamed, rightTrailing⟩
    rw [List.mapM_append, leftRest, List.mapM_cons, rightRest]
    simp only [show operand? rightSplit.first = some r.first from rightFirst]
    rfl
  · obtain ⟨head, rest, first, spells⟩ := Split.first_of_named named
    have other (keyword : String) (different : keyword ≠ "WITH") :
        head.part.spells keyword = false :=
      Bool.eq_false_iff.mpr fun both => different (Part.eq_of_spells both spells)
    have missing : ¬ r.named.isEmpty = true := by
      rw [← rightNamed, List.isEmpty_map, List.isEmpty_iff]
      exact named
    rw [whole first (other _ (by decide)) (other _ (by decide)), if_neg missing, Split.outline?,
      List.mapM_append, leftRest, List.mapM_cons, first, operand?_of_named spells]
    exact Option.bind_eq_none_iff.mpr fun _ _ => rfl

/-- A query behind an operator keeps its operators if they bind tighter, and keeps nothing
that stands at its end. -/
theorem Outline.query_operation_iff {l r : Outline} (operator : SetOperator)
    (single : l.rest = []) (ended : l.trailing = []) (unnamed : r.named = []) :
    Outline.query
        { l with rest := l.rest ++ (operator, r.first) :: r.rest, trailing := r.trailing } =
        .combined operator l.query r.query ↔
      l.named = [] ∧ r.trailing = [] ∧
        (r.rest = [] ∨ operator.isIntersection = false ∧
          ∀ operation ∈ r.rest, operation.1.isIntersection = true) := by
  by_cases plain : l.named = [] ∧ r.trailing = []
  · have left : l.query = l.first := by
      simp [query, plain.1, ended, single, grouped, Query.behind]
    have right : r.query = grouped none r.first r.rest := by
      simp [query, unnamed, plain.2]
    have whole : Outline.query
        { l with rest := l.rest ++ (operator, r.first) :: r.rest, trailing := r.trailing } =
          grouped none l.first ((operator, r.first) :: r.rest) := by
      simp [query, plain.1, plain.2, single]
    rw [whole, left, right, grouped_eq_combined_iff]
    exact ⟨fun tight => ⟨plain.1, plain.2, tight⟩, fun all => all.2.2⟩
  · have whole : Outline.query
        { l with rest := l.rest ++ (operator, r.first) :: r.rest, trailing := r.trailing } =
          .clauses l.named (grouped none l.first (l.rest ++ (operator, r.first) :: r.rest))
            r.trailing := by
      rw [query, if_neg]
      simpa using plain
    have apart {named first trailing left right} :
        Query.clauses named first trailing ≠ .combined operator left right := by
      intro same
      cases same
    rw [whole]
    exact ⟨fun same => absurd same apart, fun all => absurd ⟨all.1, all.2.1⟩ plain⟩

/-! ### Texts behind each other -/

private theorem Scan.lexemes?_blanks (rest : List Char) : ∀ {blanks : List Char},
    (∀ c ∈ blanks, Text.isBlank c = true) →
      between.lexemes? (blanks ++ rest) = between.lexemes? rest
  | [], _ => rfl
  | c :: blanks, blank => by
      rw [List.cons_append, lexemes?_blank (blank c List.mem_cons_self),
        lexemes?_blanks rest fun d member => blank d (List.mem_cons_of_mem _ member)]

/-- A text that is complete when it is trimmed is complete in front of a blank. -/
theorem lexemes?_behind {text rest : String} {first second : List Lexeme}
    (readText : lexemes? (Text.trim text) = some first) (readRest : lexemes? rest = some second) :
    lexemes? (text ++ " " ++ rest) = some (first ++ second) := by
  obtain ⟨blanks, eq, blank⟩ := Text.exists_blanks (text.toList.dropWhile Text.isBlank)
  have blankBefore : ∀ c ∈ blanks ++ [' '], Text.isBlank c = true := by
    intro c member
    rcases List.mem_append.mp member with inside | last
    · exact blank c inside
    · rw [List.mem_singleton.mp last]
      rfl
  have skipped : Scan.between.lexemes? (blanks ++ [' '] ++ rest.toList) =
      Scan.between.lexemes? rest.toList :=
    Scan.lexemes?_blanks _ blankBefore
  have chars : (text ++ " " ++ rest).toList = text.toList ++ ([' '] ++ rest.toList) := by simp
  rw [lexemes?, Text.trim, String.toList_ofList] at readText
  rw [lexemes?] at readRest
  rw [lexemes?, chars, ← Scan.lexemes?_dropWhile, eq, List.append_assoc, ← List.append_assoc blanks]
  cases found : blanks ++ [' '] with
  | nil => exact absurd found (by simp)
  | cons c more =>
      have breaks := Scan.charClass_of_isBlank (blankBefore c (found ▸ List.mem_cons_self))
      rw [List.cons_append, Scan.lexemes?_append (.inl breaks) _ _ readText, ← List.cons_append,
        ← found, skipped, readRest]
      rfl

private theorem parts?_behind {text rest : String} {first second : List Part}
    (readText : parts? (Text.trim text) = some first) (readRest : parts? rest = some second) :
    parts? (text ++ " " ++ rest) = some (first ++ second) := by
  obtain ⟨textLexemes, textRead, textNest⟩ := Option.bind_eq_some_iff.mp readText
  obtain ⟨restLexemes, restRead, restNest⟩ := Option.bind_eq_some_iff.mp readRest
  rw [parts?, lexemes?_behind textRead restRead]
  exact nest?_append textNest restNest

/-- A line end may stand behind the text already. -/
theorem parts?_trim_line {text : String} {parts : List Part}
    (read : parts? (text ++ "\n") = some parts) : parts? (Text.trim text ++ "\n") = some parts := by
  obtain ⟨lexemes, textRead, textNest⟩ := Option.bind_eq_some_iff.mp read
  rw [parts?, lexemes?_trim textRead]
  exact textNest

private theorem ne_empty_of_fragmentOutline? {fragment : String} {outline : Outline}
    (read : fragmentOutline? fragment = some outline) : fragment ≠ "" := by
  rintro rfl
  cases read

private theorem ne_empty_of_textOutline? {text : String} {outline : Outline}
    (read : textOutline? text = some outline) : text ≠ "" := by
  rintro rfl
  cases read

/-- The keyword of a set operator is read as its words. -/
theorem parts?_keyword (operator : SetOperator) :
    parts? operator.keyword = some (operator.words.map Part.ofWord) := by
  cases operator <;> rfl

end Sql

/-! ### The text of a set operation -/

/-- Literal text does not depend on what has been bound, and binds nothing. -/
theorem Tree.walk_literal (tree : Tree) (parameters : Parameters) :
    tree.walk .literal parameters = (tree.sql, parameters) := by
  let content (index : Nat) : String :=
    (tree.template.holes[index]?).elim "" fun binding => binding.value.sql
  have filled (parameters : Parameters) :
      tree.template.write .literal parameters =
        (tree.template.fillFrom content 0, parameters) := by
    refine Template.write_literal content tree.template 0 parameters fun index binding found => ?_
    rw [Nat.zero_add]
    simp only [content, found, Option.elim_some]
  have walked (parameters : Parameters) :
      tree.template.write .literal parameters = tree.walk .literal parameters := by
    rw [Tree.template, write_treeTemplate, Tree.writePieces_pieces]
    rfl
  have sql : tree.sql = (tree.walk .literal .empty).1 := rfl
  rw [sql, ← walked, ← walked, filled, filled]

namespace Printer

private theorem intercalate_concat (separator last : String) : ∀ {texts : List String}, texts ≠ [] →
    separator.intercalate (texts ++ [last]) = separator.intercalate texts ++ separator ++ last
  | [], nonempty => absurd rfl nonempty
  | [text], _ => by simp
  | text :: next :: rest, _ => by
      have ih := intercalate_concat separator last (List.cons_ne_nil next rest)
      rw [List.cons_append, List.cons_append, String.intercalate_cons_cons, ← List.cons_append, ih,
        String.intercalate_cons_cons]
      simp only [String.append_assoc]

private theorem joined_append_absent (separator : String) (texts : List String) (count : Nat) :
    joined separator (texts ++ List.replicate count "") = joined separator texts := by
  simp [joined, written]

private theorem joined_concat {texts : List String} {last : String}
    (present : joined " " texts ≠ "") (nonempty : last ≠ "") :
    joined " " (texts ++ [last]) = joined " " texts ++ " " ++ last := by
  have kept : written (texts ++ [last]) = written texts ++ [last] := by
    simp [written, nonempty]
  have some : written texts ≠ [] := by
    intro nothing
    rw [joined, nothing] at present
    exact present rfl
  rw [joined, kept, intercalate_concat _ _ some]
  rfl

end Printer

namespace Select

open Printer

/-- A query without set operations, and without clauses that stand behind them. -/
structure IsSingle (query : Select) : Prop where
  setOperations : query.setOperations = []
  orderBy : query.orderBy = []
  limit : query.limit = none
  offset : query.offset = none
  locking : query.locking = none

/-- Combining a single query adds the operator and its operand at the end of the printed
query and changes nothing before them. -/
theorem IsSingle.print_combine {query : Select} (single : query.IsSingle) (mode : Mode)
    (embedded : Tree → Writing String) (operator : SetOperator) (other : Tree) :
    ∃ front : List (Writing String),
      query.print mode embedded = Printer.clauses (front ++ List.replicate 4 (pure "")) ∧
        (query.combine operator other).print mode embedded =
          Printer.clauses (front ++ [printSetOperation embedded (operator, other)] ++
            List.replicate 4 (pure "")) := by
  obtain ⟨noOperations, noOrder, noLimit, noOffset, noLocking⟩ := single
  refine ⟨[With.print embedded query.withClause] ++
    [query.printColumns mode embedded] ++
    [printSources mode embedded query.sources] ++
    query.joins.map (fun join => join.print mode embedded) ++
    [query.filter.print mode embedded "WHERE"] ++
    [printListed mode embedded "GROUP BY" query.groupBy] ++
    [query.having.print mode embedded "HAVING"], ?_, ?_⟩
  · rw [print, noOperations, printOrderBy, noOrder, noLimit, noOffset, printLocking, noLocking]
    simp only [List.append_assoc]
    rfl
  · rw [print, combine, noOperations, printOrderBy, noOrder, noLimit, noOffset, printLocking,
      noLocking]
    simp only [List.append_assoc]
    rfl

private theorem sql_eq_print (query : Select) :
    (Statement.select query).sql = (query.print .literal (Tree.walk .literal) .empty).1 := by
  have walked : (Statement.select query).toTree.walk .literal =
      query.print .literal (Tree.walk .literal) :=
    Statement.walk_toTree fun _ _ => rfl
  rw [← walked]
  rfl

private theorem printSetOperation_literal (operator : SetOperator) {other : Tree}
    (nonempty : other.sql ≠ "") (parameters : Parameters) :
    (printSetOperation (Tree.walk .literal) (operator, other) parameters).1 =
      operator.keyword ++ " " ++ other.sql := by
  have present : other.sql.isEmpty = false := by simpa using nonempty
  rw [printSetOperation, Printer.spaced, phrase_singleton, Writing.bind_apply, Tree.walk_literal]
  simp [behind, present]

/-- The operand is written behind the text so far, which is trimmed only where it ends. -/
theorem IsSingle.sql_combine {query : Select} (single : query.IsSingle) (operator : SetOperator)
    {other : Tree} (written : (Statement.select query).sql ≠ "") (nonempty : other.sql ≠ "") :
    ∃ front : String, (Statement.select query).sql = Text.trim front ∧
      (Statement.select (query.combine operator other)).sql =
        Text.trim (front ++ " " ++ (operator.keyword ++ " " ++ other.sql)) := by
  obtain ⟨parts, print, printCombined⟩ :=
    single.print_combine .literal (Tree.walk .literal) operator other
  have absent (parameters : Parameters) :
      (inOrder (List.replicate 4 (pure "")) parameters).1 = List.replicate 4 "" := rfl
  have text : (Statement.select query).sql =
      Text.trim (joined " " (inOrder parts .empty).1) := by
    rw [sql_eq_print, print, Printer.clauses, phrase]
    simp only [Writing.bind_apply, Writing.pure_apply, inOrder_append, absent,
      joined_append_absent]
  have present : joined " " (inOrder parts .empty).1 ≠ "" := by
    intro nothing
    rw [text, nothing] at written
    exact written rfl
  have operand (parameters : Parameters) :
      (inOrder [printSetOperation (Tree.walk .literal) (operator, other)] parameters).1 =
        [operator.keyword ++ " " ++ other.sql] := by
    simp only [inOrder, Writing.bind_apply, Writing.pure_apply,
      printSetOperation_literal operator nonempty]
  have spelled : operator.keyword ++ " " ++ other.sql ≠ "" := by
    intro nothing
    have length := congrArg String.length nothing
    simp [String.length_append] at length
  refine ⟨joined " " (inOrder parts .empty).1, text, ?_⟩
  rw [sql_eq_print, printCombined, Printer.clauses, phrase]
  simp only [Writing.bind_apply, Writing.pure_apply, inOrder_append, absent,
    joined_append_absent, operand, joined_concat present spelled]

open Sql in
/-- The parts of the operands stand as they are, with the operator between them. -/
theorem IsSingle.parts?_combine {query : Select} (single : query.IsSingle)
    (operator : SetOperator) {other : Tree} {left right : List Part}
    (written : (Statement.select query).sql ≠ "") (nonempty : other.sql ≠ "")
    (readLeft : parts? (Statement.select query).sql = some left)
    (readRight : parts? (other.sql ++ "\n") = some right) :
    parts? ((Statement.select (query.combine operator other)).sql ++ "\n") =
      some (left ++ operator.words.map Part.ofWord ++ right) := by
  obtain ⟨front, sqlLeft, sqlWhole⟩ := single.sql_combine operator written nonempty
  have readBehind := parts?_spaced (parts?_keyword operator) readRight
  rw [sqlLeft] at readLeft
  have whole := parts?_behind readLeft readBehind
  rw [sqlWhole, List.append_assoc]
  apply parts?_trim_line
  rw [← whole]
  simp only [String.append_assoc]

end Select

/-! ### The meaning of a set operation -/

open Sql in
/-- A set operation is read as the operands of its operand behind those of the query.  So it
combines the query with the whole operand only where this comes to the same. -/
theorem Select.query?_combine {left : Select} (single : left.IsSingle) (operator : SetOperator)
    (right : Statement) {l r : Outline}
    (readLeft : fragmentOutline? (Statement.select left).sql = some l)
    (simple : l.rest = [] ∧ l.trailing = [])
    (readRight : textOutline? right.sql = some r) :
    let sql := (Statement.select (left.combine operator right.toTree)).sql
    (textOutline? sql =
        if r.named.isEmpty then
          some { l with rest := (operator, r.first) :: r.rest, trailing := r.trailing }
        else none) ∧
      (query? sql = some (.combined operator l.query r.query) ↔
        l.named = [] ∧ r.named = [] ∧ r.trailing = [] ∧
          (r.rest = [] ∨ operator.isIntersection = false ∧
            ∀ operation ∈ r.rest, operation.1.isIntersection = true)) := by
  obtain ⟨leftParts, partsLeft, outlineLeft⟩ := Option.bind_eq_some_iff.mp readLeft
  obtain ⟨rightParts, partsRight, outlineRight⟩ := Option.bind_eq_some_iff.mp readRight
  have partsWhole := single.parts?_combine operator (ne_empty_of_fragmentOutline? readLeft)
    (ne_empty_of_textOutline? readRight) partsLeft partsRight
  have read : textOutline? (Statement.select (left.combine operator right.toTree)).sql =
      if r.named.isEmpty then
        some { l with rest := l.rest ++ (operator, r.first) :: r.rest, trailing := r.trailing }
      else none := by
    rw [textOutline?, partsWhole, Option.bind_some]
    exact outline?_operation operator outlineLeft simple.2 outlineRight
  refine ⟨by rw [read, simple.1, List.nil_append], ?_⟩
  by_cases unnamed : r.named = []
  · rw [query?, read, unnamed, List.isEmpty_nil, if_pos rfl, Option.map_some, Option.some.injEq,
      Outline.query_operation_iff operator simple.1 simple.2 unnamed]
    simp
  · have named : ¬ r.named.isEmpty = true := by rwa [List.isEmpty_iff]
    rw [query?, read, if_neg named, Option.map_none]
    exact ⟨fun same => absurd same (nofun), fun all => absurd all.2.1 unnamed⟩

open Sql in
/-- An operator of the operand that binds tighter stays with it. -/
theorem Select.query?_combine_intersection :
    let left := Select.ofColumns [.number (.int 1)]
    let right := Statement.select ((Select.ofColumns [.number (.int 2)]).combine .intersect
      (Statement.select (Select.ofColumns [.number (.int 3)])).toTree)
    left.IsSingle ∧
      ∃ l r, fragmentOutline? (Statement.select left).sql = some l ∧
        (l.rest = [] ∧ l.trailing = []) ∧ textOutline? right.sql = some r ∧
        query? (Statement.select (left.combine .except right.toTree)).sql =
          some (.combined .except l.query r.query) := by
  intro left right
  have single : left.IsSingle := ⟨rfl, rfl, rfl, rfl, rfl⟩
  have leftSql : (Statement.select left).sql = "SELECT 1" := by decide +kernel
  have rightSql : right.sql = "SELECT 2 INTERSECT SELECT 3" := by decide +kernel
  let simple (number : String) : Query := .simple [.ofWord "SELECT", .ofWord number]
  let l : Outline := ⟨[], simple "1", [], []⟩
  let r : Outline := ⟨[], simple "2", [(.intersect, simple "3")], []⟩
  have readLeft : fragmentOutline? (Statement.select left).sql = some l := by
    rw [leftSql]
    rfl
  have readRight : textOutline? right.sql = some r := by
    rw [rightSql]
    rfl
  refine ⟨single, l, r, readLeft, ⟨rfl, rfl⟩, readRight, ?_⟩
  refine (Select.query?_combine single .except right readLeft ⟨rfl, rfl⟩ readRight).2.mpr ?_
  exact ⟨rfl, rfl, rfl, .inr ⟨rfl, by decide⟩⟩

open Sql in
set_option maxRecDepth 1000 in
/-- An operand that is limited, that has an operator like the one in front of it, or that has
named queries, is not combined as a whole, and neither is a query with named queries. -/
theorem Select.query?_combine_regrouped :
    let number (n : Int64) := Select.ofColumns [.number (.int n)]
    let named (n : Int64) :=
      (((With.start false).next "a" []).asQuery (Statement.select (number 3)).toTree).select
        [.number (.int n)]
    let limited := ((number 2).addOrderBy (.ofToken (.name "1"))).limitTo 1
    let chained := (number 2).combine .except (Statement.select (number 3)).toTree
    let regrouped (left : Select) (operator : SetOperator) (right : Select) :=
      ∃ l r, query? (Statement.select left).sql = some l ∧
        query? (Statement.select right).sql = some r ∧
        query? (Statement.select (left.combine operator (Statement.select right).toTree)).sql ≠
          some (.combined operator l r)
    regrouped (number 1) .union limited ∧ regrouped (number 1) .except chained ∧
      regrouped (number 1) .union (named 2) ∧ regrouped (named 1) .union (number 2) := by
  intro number named limited chained regrouped
  let simple (number : String) : Query := .simple [.ofWord "SELECT", .ofWord number]
  let trailing := ["ORDER", "BY", "1", "LIMIT", "1"].map Part.ofWord
  let ctes := [Part.ofWord "WITH", .ofWord "a", .ofWord "AS",
    .enclosed .parenthesis [.ofWord "SELECT", .ofWord "3"]]
  have read {query : Select} {text : String} {meaning : Option Query}
      (sql : (Statement.select query).sql = text) (reading : query? text = meaning) :
      query? (Statement.select query).sql = meaning := by
    rw [sql, reading]
  have one : query? (Statement.select (number 1)).sql = some (simple "1") :=
    read (show _ = "SELECT 1" by decide +kernel) rfl
  refine ⟨?_, ?_, ?_, ?_⟩
  · refine ⟨_, .clauses [] (simple "2") trailing, one,
      read (show _ = "SELECT 2 ORDER BY 1 LIMIT 1" by decide +kernel) rfl, ?_⟩
    have whole : query? (Statement.select
        ((number 1).combine .union (Statement.select limited).toTree)).sql =
          some (.clauses [] (.combined .union (simple "1") (simple "2")) trailing) :=
      read (show _ = "SELECT 1 UNION SELECT 2 ORDER BY 1 LIMIT 1" by decide +kernel) rfl
    rw [whole]
    exact nofun
  · refine ⟨_, .combined .except (simple "2") (simple "3"), one,
      read (show _ = "SELECT 2 EXCEPT SELECT 3" by decide +kernel) rfl, ?_⟩
    have whole : query? (Statement.select
        ((number 1).combine .except (Statement.select chained).toTree)).sql =
          some (.combined .except (.combined .except (simple "1") (simple "2")) (simple "3")) :=
      read (show _ = "SELECT 1 EXCEPT SELECT 2 EXCEPT SELECT 3" by decide +kernel) rfl
    rw [whole]
    exact nofun
  · refine ⟨_, .clauses ctes (simple "2") [], one,
      read (show _ = "WITH a AS (SELECT 3) SELECT 2" by decide +kernel) rfl, ?_⟩
    have whole : query? (Statement.select
        ((number 1).combine .union (Statement.select (named 2)).toTree)).sql = none :=
      read (show _ = "SELECT 1 UNION WITH a AS (SELECT 3) SELECT 2" by decide +kernel) rfl
    rw [whole]
    exact nofun
  · refine ⟨.clauses ctes (simple "1") [], simple "2",
      read (show _ = "WITH a AS (SELECT 3) SELECT 1" by decide +kernel) rfl,
      read (show _ = "SELECT 2" by decide +kernel) rfl, ?_⟩
    have whole : query? (Statement.select
        ((named 1).combine .union (Statement.select (number 2)).toTree)).sql =
          some (.clauses ctes (.combined .union (simple "1") (simple "2")) []) :=
      read (show _ = "WITH a AS (SELECT 3) SELECT 1 UNION SELECT 2" by decide +kernel) rfl
    rw [whole]
    exact nofun

end ClauseTree
