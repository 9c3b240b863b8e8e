import ClauseTree.Proofs.Quotation
import ClauseTree.Proofs.SolidText
import ClauseTree.Proofs.Traversal

/-!
# Quotations of trees

What the reader of quotes finds in a literal text is what the tree holds: the
texts of its quoted values and the parts of its quoted names, in the order of
the traversal.  Nothing else writes a quote if the raw texts of the tree hold
none, and no two quotations are written side by side: between any two of them
stands a separator, a bracket, a cast or an alias.
-/

namespace ClauseTree

open Sql

/-! ### What is quoted -/

/-- The text that a value has between quotes.  Numbers, truth values and nulls
are written bare. -/
def Value.quotedText? : Value → Option String
  | .null => none
  | .bool _ => none
  | .int _ => none
  | .float x =>
      if x.isNaN then some "NaN"
      else if x.isInfinite then some (if x.isNegative then "-Infinity" else "Infinity")
      else none
  | .decimal _ => none
  | .text s => some s
  | .bytes bs => some ("\\x" ++ Text.hex bs)
  | .date d => some d.text
  | .time t => some t.text
  | .timestamp t => some t.text
  | .timestampTz t => some t.zonedText
  | .uuid u => some u.text
  | .json j => some j.text

/-- The quotations that a token writes by itself, without the tokens inside. -/
def Token.quotations (token : Token) : List Quotation :=
  match token.kind with
  | .constant value _ => value.quotedText?.toList.map fun text => ⟨.single, text⟩
  | .quotedName text => (Identifier.parts text).map fun part => ⟨.double, part.text⟩
  | _ => []

/-- The texts of a kind of token that are written as they are. -/
def TokenKind.rawTexts : TokenKind → List String
  | .name text => [text]
  | .call function _ => [function]
  | .emptyCall function => [function]
  | .operator symbol => [symbol]
  | .applied symbol _ => [symbol]
  | _ => []

def Alias.rawTexts (outputName : Alias) : List String :=
  outputName.name :: outputName.columns

/-- The texts of a token that are written as they are, those of its cast and its
alias included. -/
def Token.rawTexts (token : Token) : List String :=
  token.kind.rawTexts ++ token.castType.toList ++
    (token.outputName.map Alias.rawTexts).getD []

def TokenKind.isDollarString : TokenKind → Bool
  | .dollarString _ _ => true
  | _ => false

/-- The token writes no quotes but those of its value or of its name. -/
def Token.QuotesOnlyItself (token : Token) : Prop :=
  token.kind.isDollarString = false ∧ ∀ text ∈ token.rawTexts, Unquoted text

instance (token : Token) : Decidable token.QuotesOnlyItself :=
  have : Decidable (∀ text ∈ token.rawTexts, Unquoted text) :=
    List.decidableBAll Unquoted token.rawTexts
  inferInstanceAs (Decidable (_ ∧ _))

/-! ### Values and names -/

/-- A numeral has no quote. -/
theorem Text.Numeral.unquoted {text : String} (numeral : Text.Numeral text) :
    Unquoted text := by
  intro c member
  have numeric := numeral.numeric c member
  have notSingle : c ≠ '\'' := by
    rintro rfl
    exact absurd numeric (by decide)
  have notDouble : c ≠ '"' := by
    rintro rfl
    exact absurd numeric (by decide)
  rw [Quote.ofChar?, if_neg notSingle, if_neg notDouble]

private theorem quotations?_literal (text : String) :
    quotations? (Text.literal text) = some [⟨.single, text⟩] :=
  quotations?_enclosed .single text

private theorem Text.ne_quote_of_mem_hex {bytes : List UInt8} {c : Char}
    (member : c ∈ (Text.hex bytes).toList) : c ≠ '\'' := by
  have digits : ∀ n < 16, Text.hexDigit n ≠ '\'' := by decide
  rw [Text.hex, String.toList_ofList, List.mem_flatMap] at member
  obtain ⟨byte, _, inByte⟩ := member
  have small := byte.toNat_lt
  simp only [Text.hexByte, List.mem_cons, List.not_mem_nil, or_false] at inByte
  rcases inByte with rfl | rfl
  · exact digits _ (by omega)
  · exact digits _ (by omega)

/-- Hexadecimal digits need no doubling, so bytes are a literal like any other. -/
theorem Value.sql_bytes (bytes : List UInt8) :
    (Value.bytes bytes).sql = Text.literal ("\\x" ++ Text.hex bytes) := by
  have absent : '\'' ∉ ("\\x" ++ Text.hex bytes).toList := by
    rw [String.toList_append, List.mem_append]
    rintro (inMark | inDigits)
    · exact absurd inMark (by decide)
    · exact Text.ne_quote_of_mem_hex inDigits rfl
  rw [Text.literal, Text.enclosed, Text.doubled_of_not_mem absent, ← String.toList_inj]
  simp [Value.sql]

/-- The quotations of a constant: the text inside its literal, if it has one. -/
theorem Value.quotations?_valueText (value : Value) :
    quotations? value.sql =
      some (value.quotedText?.toList.map fun text => ⟨.single, text⟩) := by
  cases value with
  | null => exact Unquoted.quotations? (by decide)
  | bool value => cases value <;> exact Unquoted.quotations? (by decide)
  | int n => exact (Text.numeral_int _).unquoted.quotations?
  | float x =>
      rw [Value.sql, Value.floatText, Value.quotedText?]
      split
      · rfl
      · split
        · split <;> rfl
        · exact (Value.floatLayout.numeral_text x).unquoted.quotations?
  | decimal x => exact x.numeral_text.unquoted.quotations?
  | text s => exact quotations?_literal s
  | bytes bs =>
      rw [Value.sql_bytes]
      exact quotations?_literal _
  | date d => exact quotations?_literal _
  | time t => exact quotations?_literal _
  | timestamp t => exact quotations?_literal _
  | timestampTz t => exact quotations?_literal _
  | uuid u => exact quotations?_literal _
  | json j => exact quotations?_literal _

/-- The quotations of a quoted name are its parts, in order. -/
theorem Identifier.quotations?_quoted (text : String) :
    quotations? (Identifier.quoted text) =
      some ((Identifier.parts text).map fun part => ⟨.double, part.text⟩) := by
  have each : ∀ parts : List Identifier.Part,
      ReadEach (parts.map fun part => Text.quotedName part.text)
        (parts.map fun part => ⟨.double, part.text⟩) := by
    intro parts
    induction parts with
    | nil => exact .nil
    | cons part rest ih => exact .cons (quotations?_enclosed .double part.text) ih
  exact (each (Identifier.parts text)).intercalate (by decide) (by decide)

/-- Texts read one by one are read in order behind one another, commas between them. -/
theorem Sql.ReadEach.commaSeparated {texts : List String} {all : List Quotation}
    (read : ReadEach texts all) : quotations? (commaSeparated texts) = some all :=
  read.intercalate (by decide) (by decide)

/-- Neither a cast nor an alias holds a quote. -/
theorem unquoted_suffix {castType : Option String} {outputName : Option Alias}
    (castClean : ∀ type ∈ castType.toList, Unquoted type)
    (nameClean : ∀ text ∈ (outputName.map Alias.rawTexts).getD [], Unquoted text) :
    Unquoted (suffix castType outputName) := by
  have commas : ∀ columns : List String, (∀ column ∈ columns, Unquoted column) →
      Unquoted (commaSeparated columns) := by
    intro columns clean
    induction columns with
    | nil => decide
    | cons column rest ih =>
        have first := clean column List.mem_cons_self
        have others := ih fun text member => clean text (List.mem_cons_of_mem _ member)
        cases rest with
        | nil => simpa [commaSeparated] using first
        | cons next more =>
            rw [commaSeparated, String.intercalate_cons_cons]
            exact (first.append (by decide)).append others
  refine Unquoted.append ?_ ?_
  · cases castType with
    | none => decide
    | some type => exact Unquoted.append (by decide) (castClean type (by simp))
  · cases outputName with
    | none => decide
    | some outputName =>
        obtain ⟨name, columns⟩ := outputName
        have columnsClean : ∀ column ∈ columns, Unquoted column := by
          intro column member
          exact nameClean column (List.mem_cons_of_mem _ member)
        have named : Unquoted (" AS " ++ name) :=
          Unquoted.append (by decide) (nameClean name List.mem_cons_self)
        refine named.append ?_
        split
        · decide
        · exact (Unquoted.append (by decide) (commas columns columnsClean)).append (by decide)

/-! ### Nodes -/

/-- Keywords and separators hold no quotes, and every separator is there. -/
theorem NodeKind.layout_unquoted (kind : NodeKind) :
    Unquoted kind.layout.keyword ∧ Unquoted kind.layout.separator ∧
      kind.layout.separator ≠ "" := by
  cases kind <;> decide

private theorem NodeKind.before_unquoted (kind : NodeKind) (glue : Glue) :
    Unquoted (kind.layout.before glue) ∧ kind.layout.before glue ≠ "" := by
  cases glue with
  | separator => exact (NodeKind.layout_unquoted kind).2
  | space =>
      have blank : Unquoted " " ∧ " " ≠ "" := by decide
      exact blank

private theorem NodeKind.quotations?_joinRest (kind : NodeKind) :
    ∀ {fragments : List Fragment} {others : List Quotation},
      ReadEach (fragments.map Fragment.text) others →
      ∀ {left : String} {first : List Quotation}, quotations? left = some first →
        quotations? (left ++ kind.layout.joinRest fragments) = some (first ++ others)
  | [], _, .nil, left, first, readLeft => by
      simpa [Layout.joinRest] using readLeft
  | fragment :: rest, _, .cons head tail, left, first, readLeft => by
      obtain ⟨unquoted, nonempty⟩ := kind.before_unquoted fragment.glue
      have joined := quotations?_separated readLeft unquoted nonempty head
      have ih := NodeKind.quotations?_joinRest kind tail joined
      rw [Layout.joinRest, ← String.append_assoc, ← String.append_assoc, ih,
        List.append_assoc]

/-- The fragments of a node, joined by its layout, read as the fragments one behind the
other. -/
theorem NodeKind.quotations?_joinWritten (kind : NodeKind) {fragments : List Fragment}
    {all : List Quotation} (read : ReadEach (fragments.map Fragment.text) all) :
    quotations? (kind.layout.joinWritten fragments) = some all := by
  cases fragments with
  | nil =>
      cases read
      rfl
  | cons fragment rest =>
      cases read with
      | cons head tail => exact kind.quotations?_joinRest tail head

/-- A node's keyword and parentheses add no quotation. -/
theorem NodeKind.quotations?_headed (kind : NodeKind) {body : String}
    {all : List Quotation} (read : quotations? body = some all) :
    quotations? (kind.layout.headed body) = some all := by
  have keyword := (NodeKind.layout_unquoted kind).1
  rw [Layout.headed]
  split
  · exact read
  · split
    next empty =>
      rw [String.isEmpty_iff] at empty
      subst empty
      cases read
      exact keyword.quotations?
    next =>
      rw [quotations?_unquoted_append (keyword.append (by decide))]
      exact read

/-- A node holds the quotations of its children.  The children that are left out
are empty and hold none. -/
theorem NodeKind.quotations?_compose (kind : NodeKind) {fragments : List Fragment}
    {all : List Quotation} (read : ReadEach (fragments.map Fragment.text) all) :
    quotations? (kind.layout.compose fragments) = some all := by
  have written : ReadEach ((fragments.filter fun fragment =>
      !fragment.text.isEmpty).map Fragment.text) all := by
    have kept := read.filter
    rwa [List.filter_map] at kept
  have body := kind.quotations?_joinWritten written
  rw [Layout.compose]
  refine kind.quotations?_headed ?_
  split
  · exact quotations?_between (by decide) body (by decide)
  · exact body

/-- The text of a whole tree reads as its fragments one behind the other. -/
theorem quotations?_treeText {fragments : List Fragment} {all : List Quotation}
    (read : ReadEach (fragments.map Fragment.text) all) :
    quotations? (treeText fragments) = some all :=
  quotations?_trim (NodeKind.root.quotations?_compose read)

/-! ### The walk

One statement for each kind of thing that is walked over.  Literal text binds
nothing, so the parameters are arbitrary and stay as they are.
-/

/-- The quotations of tokens in their order. -/
def allQuotations (tokens : List Token) : List Quotation :=
  tokens.flatMap Token.quotations

private theorem allQuotations_append (left right : List Token) :
    allQuotations (left ++ right) = allQuotations left ++ allQuotations right :=
  List.flatMap_append

/-- A token without quotes of its own holds those of the tokens inside. -/
theorem allQuotations_cons_of_nil {token : Token} (own : token.quotations = [])
    (rest : List Token) : allQuotations (token :: rest) = allQuotations rest := by
  rw [allQuotations, List.flatMap_cons, own]
  rfl

theorem Token.QuotesOnlyItself.kind_rawTexts {token : Token} {kind : TokenKind}
    (clean : token.QuotesOnlyItself) (same : token.kind = kind) :
    ∀ text ∈ kind.rawTexts, Unquoted text := by
  intro text member
  subst same
  exact clean.2 text (by simp [Token.rawTexts, member])

mutual

/-- The token reads as the quotations of its traversal, whatever the parameters before
it. -/
theorem Token.quotations?_write : ∀ (token : Token) (parameters : Parameters),
    (∀ inner ∈ token.traversal, inner.QuotesOnlyItself) →
    quotations? (token.write .literal parameters).1 = some (allQuotations token.traversal)
  | ⟨kind, castType, outputName⟩, parameters, clean => by
      have itself := clean ⟨kind, castType, outputName⟩ List.mem_cons_self
      have inner := TokenKind.quotations?_write ⟨kind, castType, outputName⟩ kind rfl
        parameters clean
      have ending : Unquoted (suffix castType outputName) := by
        apply unquoted_suffix
        · intro type member
          exact itself.2 type (by simp [Token.rawTexts, member])
        · intro text member
          exact itself.2 text (by simp [Token.rawTexts, member])
      exact quotations?_append_unquoted inner ending

private theorem TokenKind.quotations?_write (whole : Token) :
    ∀ (kind : TokenKind), whole.kind = kind → ∀ (parameters : Parameters),
    (∀ inner ∈ whole :: kind.traversal, inner.QuotesOnlyItself) →
    quotations? (kind.write .literal whole parameters).1 =
      some (allQuotations (whole :: kind.traversal))
  | .name text, same, _, clean => by
      have raw := (clean whole List.mem_cons_self).kind_rawTexts same
      rw [allQuotations_cons_of_nil (by rw [Token.quotations, same])]
      exact (raw text (by simp [TokenKind.rawTexts])).quotations?
  | .quotedName text, same, _, _ => by
      have own := Identifier.quotations?_quoted text
      rw [allQuotations, TokenKind.traversal, List.flatMap_singleton, Token.quotations, same]
      exact own
  | .constant value prepared, same, _, _ => by
      have own := value.quotations?_valueText
      rw [allQuotations, TokenKind.traversal, List.flatMap_singleton, Token.quotations, same]
      cases prepared <;> exact own
  | .dollarString _ _, same, _, clean => by
      have excluded := (clean whole List.mem_cons_self).1
      rw [same] at excluded
      cases excluded
  | .array items, same, parameters, clean => by
      have inner := quotations?_writeTokens items parameters
        fun token member => clean token (List.mem_cons_of_mem _ member)
      rw [allQuotations_cons_of_nil (by rw [Token.quotations, same])]
      exact quotations?_between (by decide) inner.commaSeparated (by decide)
  | .list items, same, parameters, clean => by
      have inner := quotations?_writeTokens items parameters
        fun token member => clean token (List.mem_cons_of_mem _ member)
      rw [allQuotations_cons_of_nil (by rw [Token.quotations, same])]
      exact quotations?_between (by decide) inner.commaSeparated (by decide)
  | .call function argument, same, parameters, clean => by
      have raw := (clean whole List.mem_cons_self).kind_rawTexts same
      have unquoted := raw function (by simp [TokenKind.rawTexts])
      have inner := Token.quotations?_write argument parameters
        fun token member => clean token (List.mem_cons_of_mem _ member)
      rw [allQuotations_cons_of_nil (by rw [Token.quotations, same])]
      simp only [TokenKind.write, Writing.bind_apply, Writing.pure_apply]
      split
      · rw [quotations?_unquoted_append unquoted]
        exact inner
      · exact quotations?_between (unquoted.append (by decide)) inner (by decide)
  | .emptyCall function, same, _, clean => by
      have raw := (clean whole List.mem_cons_self).kind_rawTexts same
      have unquoted := raw function (by simp [TokenKind.rawTexts])
      rw [allQuotations_cons_of_nil (by rw [Token.quotations, same])]
      exact (unquoted.append (by decide)).quotations?
  | .operator symbol, same, _, clean => by
      have raw := (clean whole List.mem_cons_self).kind_rawTexts same
      rw [allQuotations_cons_of_nil (by rw [Token.quotations, same])]
      exact (raw symbol (by simp [TokenKind.rawTexts])).quotations?
  | .applied symbol operand, same, parameters, clean => by
      have raw := (clean whole List.mem_cons_self).kind_rawTexts same
      have unquoted := raw symbol (by simp [TokenKind.rawTexts])
      have inner := Token.quotations?_write operand parameters
        fun token member => clean token (List.mem_cons_of_mem _ member)
      rw [allQuotations_cons_of_nil (by rw [Token.quotations, same])]
      simp only [TokenKind.write, Writing.bind_apply, Writing.pure_apply]
      rw [quotations?_unquoted_append unquoted]
      exact inner
  | .subQuery tree, same, parameters, clean => by
      have inner := Tree.quotations?_write tree parameters
        fun token member => clean token (List.mem_cons_of_mem _ member)
      rw [allQuotations_cons_of_nil (by rw [Token.quotations, same])]
      exact quotations?_between (by decide) (quotations?_treeText inner) (by decide)
  | .statement tree, same, parameters, clean => by
      have inner := Tree.quotations?_write tree parameters
        fun token member => clean token (List.mem_cons_of_mem _ member)
      rw [allQuotations_cons_of_nil (by rw [Token.quotations, same])]
      exact quotations?_treeText inner
  | .values rows, same, parameters, clean => by
      have inner := quotations?_writeRows rows parameters
        fun token member => clean token (List.mem_cons_of_mem _ member)
      rw [allQuotations_cons_of_nil (by rw [Token.quotations, same])]
      exact quotations?_between (by decide) inner.commaSeparated (by decide)

private theorem quotations?_writeTokens : ∀ (items : List Token) (parameters : Parameters),
    (∀ inner ∈ tokensTraversal items, inner.QuotesOnlyItself) →
    ReadEach (writeTokens .literal items parameters).1
      (allQuotations (tokensTraversal items))
  | [], _, _ => .nil
  | token :: rest, parameters, clean => by
      have first := Token.quotations?_write token parameters
        fun inner member => clean inner (List.mem_append_left _ member)
      have others := quotations?_writeTokens rest (token.write .literal parameters).2
        fun inner member => clean inner (List.mem_append_right _ member)
      rw [tokensTraversal, allQuotations_append]
      exact .cons first others

private theorem quotations?_writeRows : ∀ (rows : List (List Token)) (parameters : Parameters),
    (∀ inner ∈ rowsTraversal rows, inner.QuotesOnlyItself) →
    ReadEach (writeRows .literal rows parameters).1 (allQuotations (rowsTraversal rows))
  | [], _, _ => .nil
  | row :: rest, parameters, clean => by
      have first := quotations?_writeTokens row parameters
        fun inner member => clean inner (List.mem_append_left _ member)
      have others := quotations?_writeRows rest (writeTokens .literal row parameters).2
        fun inner member => clean inner (List.mem_append_right _ member)
      have rowText : quotations?
          ("(" ++ commaSeparated (writeTokens .literal row parameters).1 ++ ")") =
            some (allQuotations (tokensTraversal row)) :=
        quotations?_between (by decide) first.commaSeparated (by decide)
      rw [rowsTraversal, allQuotations_append]
      exact .cons rowText others

private theorem Child.quotations?_write : ∀ (child : Child) (parameters : Parameters),
    (∀ inner ∈ child.traversal, inner.QuotesOnlyItself) →
    quotations? (child.write .literal parameters).1.text =
      some (allQuotations child.traversal)
  | .leaf token, parameters, clean => Token.quotations?_write token parameters clean
  | .node kind children, parameters, clean =>
      kind.quotations?_compose (quotations?_writeChildren children parameters clean)

private theorem quotations?_writeChildren : ∀ (children : List Child) (parameters : Parameters),
    (∀ inner ∈ childrenTraversal children, inner.QuotesOnlyItself) →
    ReadEach ((writeChildren .literal children parameters).1.map Fragment.text)
      (allQuotations (childrenTraversal children))
  | [], _, _ => .nil
  | child :: rest, parameters, clean => by
      have first := Child.quotations?_write child parameters
        fun inner member => clean inner (List.mem_append_left _ member)
      have others := quotations?_writeChildren rest (child.write .literal parameters).2
        fun inner member => clean inner (List.mem_append_right _ member)
      rw [childrenTraversal, allQuotations_append]
      exact .cons first others

/-- The fragments of a tree read as the quotations of its traversal, open nodes included. -/
theorem Tree.quotations?_write : ∀ (tree : Tree) (parameters : Parameters),
    (∀ inner ∈ tree.traversal, inner.QuotesOnlyItself) →
    ReadEach ((tree.write .literal parameters).1.map Fragment.text)
      (allQuotations tree.traversal)
  | .here children, parameters, clean => quotations?_writeChildren children parameters clean
  | .inside before kind rest, parameters, clean => by
      have first := quotations?_writeChildren before parameters
        fun inner member => clean inner (List.mem_append_left _ member)
      have others := Tree.quotations?_write rest
        (writeChildren .literal before parameters).2
        fun inner member => clean inner (List.mem_append_right _ member)
      have node := ReadEach.cons (kind.quotations?_compose others) .nil
      rw [List.append_nil] at node
      rw [Tree.traversal, allQuotations_append]
      simpa [Tree.write] using first.append node

end

/-! ### Literal text -/

/-- Read from the left for quotes alone, the literal text of a tree ends outside
of any, and what it holds in quotes are the texts of the quoted values and the
parts of the quoted names of the tree, embedded trees included, in the order of
the traversal. -/
theorem Tree.quotations?_sql (tree : Tree)
    (clean : ∀ token ∈ tree.traversal, token.QuotesOnlyItself) :
    quotations? tree.sql = some (tree.traversal.flatMap Token.quotations) :=
  quotations?_treeText (Tree.quotations?_write tree .empty clean)

/-- Quotes, dots and blanks inside of values and names, in a sub-query and a node
that is still open. -/
theorem quotations?_sql_open_query :
    let inner : Tree := .here [.leaf (((Token.string "it''s \"x\"").cast "text").aliased "t" []),
      .node .whereClause [.leaf (.applied "" (.constant (.bytes [0x27])))]]
    let tree : Tree := .inside [.leaf (.quotedName "s.\"a\"\"b.c\"")] .select
      (.here [.leaf (.list [.subQuery inner, .number (.float ⟨0x7ff8000000000000⟩)])])
    (∀ token ∈ tree.traversal, token.QuotesOnlyItself) ∧
      quotations? tree.sql =
        some [⟨.double, "s"⟩, ⟨.double, "a\"b.c"⟩, ⟨.single, "it''s \"x\""⟩,
          ⟨.single, "\\x27"⟩, ⟨.single, "NaN"⟩] := by
  intro inner tree
  have clean : ∀ token ∈ tree.traversal, token.QuotesOnlyItself := by decide
  refine ⟨clean, ?_⟩
  rw [Tree.quotations?_sql tree clean]
  decide +kernel

end ClauseTree
