import EventAlgebra.Proofs.Quoting

/-!
# Columns named by their sources

A column without an alias is named by its source between double quotes, so that a projection
clause has the leaf of such a column twice, once outside and once inside of quotes. Quotes alone do
not hide a leaf: renumbering the clause renumbers both (`shift_append_quote`). An equals sign in
front of the closing quote does: the two begin a literal, which goes on up to the opening quote of
the next name and hides the source of the next column (`shift_append_literal`).

So renumbering a clause gives the clause of the renumbered sources exactly if no source but the last
one ends in an equals sign (`shift_quotedClause`).
-/

set_option autoImplicit false

namespace EventAlgebra

open Text

/-- Two texts together have no quotes if neither of them has. -/
theorem quoteFree_append {text rest : String} :
    QuoteFree (text ++ rest) ↔ QuoteFree text ∧ QuoteFree rest := by
  rw [QuoteFree, String.toList_append, List.mem_append, not_or]
  rfl

/-! ## A quote behind a text -/

/-- A quote ends a word as the end of the text does. -/
theorem takeWhile_append_quote (cs rest : List Char) :
    (cs ++ '"' :: rest).takeWhile isWord = cs.takeWhile isWord := by
  have hquote : isWord '"' = false := by decide
  induction cs with
  | nil => simp [hquote]
  | cons c cs ih => simp only [List.cons_append, List.takeWhile_cons, ih]

/-- A quote behind a text does not change whether a leaf stands at its front. -/
theorem leafAt?_append_quote (c : Char) (tail rest : List Char) :
    leafAt? (c :: (tail ++ '"' :: rest)) =
      (leafAt? (c :: tail)).map fun found => (found.1, found.2 ++ '"' :: rest) := by
  by_cases hc : c = 'M'
  · subst hc
    cases hleaf : leafAt? ('M' :: tail) with
    | none => exact leafAt?_eq_none_congr (takeWhile_append_quote tail rest).symm hleaf
    | some found =>
        obtain ⟨digits, after⟩ := found
        obtain ⟨rfl, hne, hdigits, hafter⟩ := leafAt?_eq_some_iff.1 hleaf
        rw [Option.map_some, leafAt?_eq_some_iff]
        refine ⟨by simp, hne, hdigits, ?_⟩
        intro d hd
        cases after with
        | nil =>
            obtain rfl : '"' = d := by simpa using hd
            decide
        | cons b after => exact hafter d (by simpa using hd)
  · rw [leafAt?_eq_none_of_ne hc, leafAt?_eq_none_of_ne hc, Option.map_none]

/-- A quote behind a text without quotes does not change the first token, unless an equals sign
stands in front of it and another quote follows. -/
theorem nextToken_append_quote (afterWord : Bool) {c : Char} {tail rest : List Char}
    (hquote : '"' ∉ c :: tail) (hsign : (c :: tail).getLast? ≠ some '=' ∨ '"' ∉ rest) :
    nextToken afterWord c (tail ++ '"' :: rest) =
      ((nextToken afterWord c tail).1, (nextToken afterWord c tail).2 ++ '"' :: rest) := by
  have hhead : tail.head? ≠ some '"' := by
    intro hhead
    exact hquote (List.mem_cons_of_mem _ (List.mem_of_mem_head? hhead))
  have hliteral : literalAt? (c :: tail) = none := literalAt?_eq_none_of_ne fun h => hhead h.2
  have hliteral' : literalAt? (c :: (tail ++ '"' :: rest)) = none := by
    cases tail with
    | cons d tail =>
        apply literalAt?_eq_none_of_ne
        rintro ⟨-, hfirst⟩
        exact hhead (by simpa using hfirst)
    | nil =>
        by_cases hc : c = '='
        · -- a literal begins here, but nothing ends it
          subst hc
          exact literalAt?_eq_none_iff.2 (hsign.resolve_left (by simp))
        · exact literalAt?_eq_none_of_ne fun h => hc h.1
  unfold nextToken
  rw [hliteral, hliteral', leafAt?_append_quote]
  cases afterWord with
  | true => simp
  | false => cases leafAt? (c :: tail) <;> simp

/-- A quote behind a text without quotes is a token of its own, unless it begins a literal. The text
loses its first token in each step of the induction, and ends as before. -/
theorem scanFrom_append_quote {afterWord : Bool} {cs rest : List Char} (hquote : '"' ∉ cs)
    (hsign : cs.getLast? ≠ some '=' ∨ '"' ∉ rest) :
    scanFrom afterWord (cs ++ '"' :: rest) =
      scanFrom afterWord cs ++ .plain '"' :: scanFrom false rest := by
  induction afterWord, cs using scanInduction with
  | nil afterWord => rw [List.nil_append, scanFrom_quote, scanFrom_nil, List.nil_append]
  | cons afterWord c tail token after hnext ih =>
      have hchars := chars_nextToken afterWord c tail
      have happ := nextToken_append_quote afterWord hquote hsign
      rw [hnext] at hchars happ
      have hafter : '"' ∉ after := by
        intro hmem
        rw [← hchars] at hquote
        exact hquote (List.mem_append_right _ hmem)
      have hlast : after.getLast? ≠ some '=' ∨ '"' ∉ rest := by
        rw [← hchars] at hsign
        refine hsign.imp_left fun hne heq => hne ?_
        rw [List.getLast?_append, heq]
        rfl
      rw [List.cons_append, scanFrom_cons, happ, ih hafter hlast, scanFrom_cons afterWord c tail,
        hnext, List.cons_append]

/-- A quote does not keep what is around it from being renumbered, unless it begins a literal. -/
theorem shift_append_quote {text rest : String} (hquote : QuoteFree text)
    (hsign : text.toList.getLast? ≠ some '=' ∨ QuoteFree rest) (amount : Nat) :
    shift (text ++ ("\"" ++ rest)) amount = shift text amount ++ ("\"" ++ shift rest amount) := by
  have hscan : scan (text ++ ("\"" ++ rest)) = scan text ++ .plain '"' :: scan rest := by
    have hchars : (text ++ ("\"" ++ rest)).toList = text.toList ++ '"' :: rest.toList := by simp
    rw [scan, hchars]
    exact scanFrom_append_quote hquote hsign
  unfold shift
  split
  · rfl
  · rw [hscan, ← String.toList_inj]
    simp [Token.concat, Token.shift, Token.chars]

/-- A literal that begins at a quote keeps what is inside from being renumbered. -/
theorem shift_append_literal {text gap : String} (hquote : QuoteFree text)
    (hsign : text.toList.getLast? = some '=') (hgap : QuoteFree gap) (rest : String)
    (amount : Nat) :
    shift (text ++ ("\"" ++ (gap ++ ("\"" ++ rest)))) amount =
      shift text amount ++ ("\"" ++ (gap ++ ("\"" ++ shift rest amount))) := by
  obtain ⟨front, hfront⟩ := List.getLast?_eq_some_iff.1 hsign
  obtain rfl : text = String.ofList front ++ "=" := by
    rw [← String.toList_inj, hfront]
    simp
  have hclosed : Closed (String.ofList front) := closed_of_quoteFree (quoteFree_append.1 hquote).1
  have hliteral : ∀ first last : String,
      first ++ "=" ++ ("\"" ++ (gap ++ ("\"" ++ last))) = first ++ (literalText gap ++ last) := by
    intro first last
    simp [← String.toList_inj, literalText]
  have hstarts : StartsApart (literalText gap ++ rest).toList := by
    intro c hc
    obtain rfl : '=' = c := by simpa [literalText] using hc
    decide
  have hends : EndsApart (literalText gap).toList := endsApart_append_quote ("=\"" ++ gap)
  have hequals : shift (String.ofList front ++ "=") amount =
      shift (String.ofList front) amount ++ "=" := by
    have hfree : LeafFree "=" := leafFree_of_notMem (by decide)
    rw [shift_append amount (Or.inl hclosed) (Or.inr (by decide)), shift_of_leafFree hfree]
  rw [hequals, hliteral, hliteral, shift_append amount (Or.inl hclosed) (Or.inr hstarts),
    shift_append amount (Or.inl (closed_literalText hgap)) (Or.inl hends),
    shift_of_leafFree (leafFree_literalText hgap)]

/-! ## Terms at a leaf -/

/-- A text keeps apart from what is in front of it by its own beginning. -/
theorem startsApart_append {text : String} (hne : text ≠ "") (h : StartsApart text.toList)
    (rest : String) : StartsApart (text ++ rest).toList := by
  intro c hc
  apply h c
  cases htext : text.toList with
  | nil => exact absurd (String.toList_inj.1 htext) hne
  | cons d ds => simpa [htext] using hc

/-- The digits of a leaf reach up to a border. -/
theorem takeWhile_leafName (index : Nat) {rest : String} (h : StartsApart rest.toList) :
    (leafName index ++ rest).toList.tail.takeWhile Char.isDigit = Nat.toDigits 10 index := by
  have hdigits : ∀ d ∈ Nat.toDigits 10 index, d.isDigit = true := fun d hd =>
    Nat.isDigit_of_mem_toDigits (by decide) (by decide) hd
  have hstop : rest.toList.takeWhile Char.isDigit = [] := by
    cases hrest : rest.toList with
    | nil => rfl
    | cons c cs =>
        have hword : isWord c = false := (h c (by simp [hrest])).1
        refine List.takeWhile_cons_of_neg fun hdigit => ?_
        rw [isWord_of_isWordDigit (isWordDigit_of_isDigit hdigit)] at hword
        cases hword
  rw [String.toList_append, toList_leafName, List.cons_append, List.tail_cons,
    List.takeWhile_append_of_pos hdigits, hstop, List.append_nil]

/-- A leaf in front of a border is told by the text. -/
theorem leafName_append_inj {index index' : Nat} {rest rest' : String}
    (heq : leafName index ++ rest = leafName index' ++ rest') (hrest : StartsApart rest.toList)
    (hrest' : StartsApart rest'.toList) : index = index' := by
  have hdigits := congrArg (fun text : String => text.toList.tail.takeWhile Char.isDigit) heq
  simp only [takeWhile_leafName _ hrest, takeWhile_leafName _ hrest'] at hdigits
  have hvalue := congrArg digitRunValue hdigits
  simpa only [digitRunValue_toDigits] using hvalue

/-- A leaf, alone or followed by a dot and a text without quotes and leaves. -/
structure LeafTerm where
  index : Nat
  /-- What follows the leaf. -/
  field : String
  plain : field = "" ∨ ∃ name, field = "." ++ name ∧ QuoteFree name ∧ LeafFree name

namespace LeafTerm

/-- The text of a term. -/
def text (term : LeafTerm) : String :=
  leafName term.index ++ term.field

/-- The term at the leaf that many further on. -/
def move (amount : Nat) (term : LeafTerm) : LeafTerm :=
  { term with index := term.index + amount }

/-- Whether a term ends in an equals sign. -/
def endsInSign (term : LeafTerm) : Bool :=
  term.text.toList.getLast? == some '='

theorem quoteFree_field (term : LeafTerm) : QuoteFree term.field := by
  rcases term.plain with hfield | ⟨name, hfield, hquote, -⟩
  · rw [hfield]
    decide
  · rw [hfield]
    exact quoteFree_append.2 ⟨by decide, hquote⟩

theorem leafFree_field (term : LeafTerm) : LeafFree term.field := by
  rcases term.plain with hfield | ⟨name, hfield, -, hfree⟩
  · rw [hfield]
    exact leafFree_of_notMem (by decide)
  · have hdot : leafIndices "." = [] := leafIndices_of_notMem (by decide)
    rw [hfield, leafFree_iff, leafIndices_append (Or.inl (closed_of_quoteFree (by decide)))
      (Or.inl (by decide)), hdot, leafFree_iff.1 hfree]
    rfl

/-- What follows the leaf keeps apart from it, and so does anything that keeps apart behind it. -/
theorem startsApart_field (term : LeafTerm) {rest : String} (h : StartsApart rest.toList) :
    StartsApart (term.field ++ rest).toList := by
  rcases term.plain with hfield | ⟨name, hfield, -⟩
  · rw [hfield]
    simpa using h
  · rw [hfield, String.append_assoc]
    exact startsApart_append (by decide) (by decide) (name ++ rest)

theorem quoteFree_text (term : LeafTerm) : QuoteFree term.text :=
  quoteFree_append.2 ⟨quoteFree_leafName _, term.quoteFree_field⟩

/-- Renumbering a term moves it. -/
theorem shift_text {term : LeafTerm} {amount : Nat} (h : term.index + amount ≤ largestNat64) :
    shift term.text amount = (term.move amount).text := by
  have hapart : StartsApart term.field.toList := by
    simpa using @startsApart_field term "" (by decide)
  rw [text, shift_append amount (Or.inl (closed_leafName _)) (Or.inr hapart), shift_leafName h,
    shift_of_leafFree term.leafFree_field]
  rfl

/-- Renumbering a term in front of a border moves it. -/
theorem shift_text_append {term : LeafTerm} {amount : Nat}
    (h : term.index + amount ≤ largestNat64) {rest : String} (hrest : StartsApart rest.toList) :
    shift (term.text ++ rest) amount = (term.move amount).text ++ shift rest amount := by
  rw [shift_append amount (Or.inl (closed_of_quoteFree term.quoteFree_text)) (Or.inr hrest),
    shift_text h]

/-- Terms at different leaves are different texts, whatever follows them behind a border. -/
theorem text_append_ne {term : LeafTerm} {amount : Nat} (h : amount ≠ 0) {rest rest' : String}
    (hrest : StartsApart rest.toList) (hrest' : StartsApart rest'.toList) :
    term.text ++ rest ≠ (term.move amount).text ++ rest' := by
  intro heq
  rw [text, text, String.append_assoc, String.append_assoc] at heq
  have hsame : term.index = term.index + amount := leafName_append_inj heq
    (term.startsApart_field hrest) ((term.move amount).startsApart_field hrest')
  omega

end LeafTerm

/-! ## Clauses with quoted names -/

/-- A projection clause, its boundaries at leaves, in which columns without an alias are named by
their sources. -/
def quotedClause (fields : List ProjectionField) (start finish : LeafTerm) : String :=
  (Projection.output .quoted ⟨fields, start.text, finish.text⟩).clause

/-- Columns at leaves, without aliases. -/
def LeafTerm.columns (terms : List LeafTerm) : List ProjectionField :=
  terms.map fun term => ⟨term.text, none⟩

/-- Columns with their leaves moved, under the names of the moved sources, apart from the sources
that a literal hides: the first one if it is `hidden`, and each one behind a term that ends in an
equals sign. -/
def LeafTerm.movedColumns (amount : Nat) : Bool → List LeafTerm → List ProjectionField
  | _, [] => []
  | hidden, term :: rest =>
    ⟨if hidden then term.text else (term.move amount).text,
      some (quotedAlias (term.move amount).text)⟩ :: movedColumns amount term.endsInSign rest

theorem quotedAlias_of_quoteFree {source : String} (h : QuoteFree source) :
    quotedAlias source = "\"" ++ (source ++ "\"") := by
  have hfilter : source.toList.filter (· != '"') = source.toList := by
    rw [List.filter_eq_self]
    intro c hc
    rw [bne_iff_ne]
    rintro rfl
    exact h hc
  rw [← String.toList_inj, quotedAlias, hfilter]
  simp

theorem aliasesFrom_quoted (taken : List String) (position : Nat) (fields : List ProjectionField) :
    aliasesFrom .quoted taken position fields =
      fields.map fun field => field.chosen.getD (quotedAlias field.source) := by
  induction fields generalizing position with
  | nil => rfl
  | cons field fields ih =>
      cases hchosen : field.chosen with
      | none => simp [aliasesFrom, hchosen, ih]
      | some label => simp [aliasesFrom, hchosen, ih]

/-- A clause is its first column and the clause of the others. -/
theorem quotedClause_cons (field : ProjectionField) (fields : List ProjectionField)
    (start finish : LeafTerm) :
    quotedClause (field :: fields) start finish =
      renderColumn field.source (field.chosen.getD (quotedAlias field.source)) ++
        (", " ++ quotedClause fields start finish) := by
  simp only [quotedClause, Projection.output, aliases, aliasesFrom_quoted, List.map_cons,
    List.zipWith_cons_cons, List.cons_append]
  cases fields with
  | nil => simp [joinWith, String.append_assoc]
  | cons next fields => simp [joinWith, String.append_assoc]

/-- The name of a column without an alias, and what follows it, stand behind a quote. -/
theorem quotedClause_columns_cons (term : LeafTerm) (terms : List LeafTerm)
    (start finish : LeafTerm) :
    quotedClause (LeafTerm.columns (term :: terms)) start finish =
      term.text ++ " AS " ++ ("\"" ++ (term.text ++ ("\"" ++
        (", " ++ quotedClause (LeafTerm.columns terms) start finish)))) := by
  rw [LeafTerm.columns, List.map_cons, quotedClause_cons, Option.getD_none,
    quotedAlias_of_quoteFree term.quoteFree_text]
  simp only [renderColumn, String.append_assoc]
  rfl

theorem quotedClause_movedColumns_cons (amount : Nat) (hidden : Bool) (term : LeafTerm)
    (terms : List LeafTerm) (start finish : LeafTerm) :
    quotedClause (LeafTerm.movedColumns amount hidden (term :: terms)) start finish =
      (if hidden then term.text else (term.move amount).text) ++ " AS " ++
        ("\"" ++ ((term.move amount).text ++ ("\"" ++ (", " ++
          quotedClause (LeafTerm.movedColumns amount term.endsInSign terms) start finish)))) := by
  rw [LeafTerm.movedColumns, quotedClause_cons, Option.getD_some,
    quotedAlias_of_quoteFree (term.move amount).quoteFree_text]
  simp only [renderColumn, String.append_assoc]

theorem quotedClause_nil (start finish : LeafTerm) :
    quotedClause [] start finish = start.text ++ (" AS sf, " ++ (finish.text ++ " AS ef")) := by
  have hdivider : " AS sf, " = " AS " ++ ("sf" ++ ", ") := by decide
  have hclosing : " AS ef" = " AS " ++ "ef" := by decide
  simp [quotedClause, Projection.output, aliases, aliasesFrom, joinWith, renderColumn, hdivider,
    hclosing, String.append_assoc]

/-- The boundaries have no quotes. -/
theorem quoteFree_quotedClause_nil (start finish : LeafTerm) :
    QuoteFree (quotedClause [] start finish) := by
  have hfixed : QuoteFree " AS sf, " ∧ QuoteFree " AS ef" := by decide
  simp only [quotedClause_nil, quoteFree_append]
  exact ⟨start.quoteFree_text, hfixed.1, finish.quoteFree_text, hfixed.2⟩

/-- Up to the quote in front of its name a column has no quotes. -/
theorem quoteFree_source (term : LeafTerm) : QuoteFree (term.text ++ " AS ") :=
  quoteFree_append.2 ⟨term.quoteFree_text, by decide⟩

/-- The source of a column that no literal hides is moved, and renumbering goes on in its name. -/
theorem shift_source_append {term : LeafTerm} {amount : Nat}
    (hroom : term.index + amount ≤ largestNat64) (rest : String) :
    shift (term.text ++ " AS " ++ ("\"" ++ rest)) amount =
      (term.move amount).text ++ " AS " ++ ("\"" ++ shift rest amount) := by
  have hlast : (term.text ++ " AS ").toList.getLast? ≠ some '=' := by
    have hspace : " AS ".toList.getLast? = some ' ' := by decide
    rw [String.toList_append, List.getLast?_append, hspace]
    simp
  have hfree : LeafFree " AS " := leafFree_of_notMem (by decide)
  rw [shift_append_quote (quoteFree_source term) (Or.inl hlast),
    LeafTerm.shift_text_append hroom (by decide), shift_of_leafFree hfree]

/-- Renumbering goes on behind a comma. -/
theorem shift_comma_append (rest : String) (amount : Nat) :
    shift (", " ++ rest) amount = ", " ++ shift rest amount := by
  have hcomma : Frame.IsDivider ", " := Frame.isDivider_comma
  rw [shift_append amount (Or.inl (closed_of_quoteFree hcomma.quoteFree))
    (Or.inl hcomma.endsApart), shift_of_leafFree hcomma.leafFree]

section Renumbered

variable {amount : Nat} {start finish : LeafTerm} (hstart : start.index + amount ≤ largestNat64)
  (hfinish : finish.index + amount ≤ largestNat64)

include hstart hfinish

/-- Renumbering the boundaries moves them. -/
theorem shift_quotedClause_nil :
    shift (quotedClause [] start finish) amount =
      quotedClause [] (start.move amount) (finish.move amount) := by
  have hdivider : Frame.IsDivider " AS sf, " := by decide +kernel
  have hstarts : StartsApart (" AS sf, " ++ (finish.text ++ " AS ef")).toList :=
    startsApart_append (by decide) (by decide) _
  rw [quotedClause_nil, quotedClause_nil, LeafTerm.shift_text_append hstart hstarts,
    shift_append amount (Or.inl (closed_of_quoteFree hdivider.quoteFree))
      (Or.inl hdivider.endsApart), LeafTerm.shift_text_append hfinish (by decide),
    shift_of_leafFree hdivider.leafFree, shift_of_leafFree (leafFree_of_notMem (by decide))]

/-- Renumbering from inside the name of a column on. The name is moved. The source of the next
column is hidden if the name ends in an equals sign, and moved otherwise; either way renumbering
goes on inside the next name. -/
theorem shift_from_name (term : LeafTerm) (terms : List LeafTerm)
    (hroom : ∀ other ∈ term :: terms, other.index + amount ≤ largestNat64) :
    shift (term.text ++ ("\"" ++ (", " ++ quotedClause (LeafTerm.columns terms) start finish)))
        amount =
      (term.move amount).text ++ ("\"" ++ (", " ++ quotedClause
        (LeafTerm.movedColumns amount term.endsInSign terms) (start.move amount)
          (finish.move amount))) := by
  have hcomma : QuoteFree ", " := by decide
  induction terms generalizing term with
  | nil =>
      obtain ⟨hterm, -⟩ := List.forall_mem_cons.1 hroom
      have hquote : QuoteFree (", " ++ quotedClause [] start finish) :=
        quoteFree_append.2 ⟨hcomma, quoteFree_quotedClause_nil start finish⟩
      show shift (term.text ++ ("\"" ++ (", " ++ quotedClause [] start finish))) amount = _
      rw [shift_append_quote term.quoteFree_text (Or.inr hquote), LeafTerm.shift_text hterm,
        shift_comma_append, shift_quotedClause_nil hstart hfinish]
      rfl
  | cons next terms ih =>
      obtain ⟨hterm, hterms⟩ := List.forall_mem_cons.1 hroom
      have hnext := (List.forall_mem_cons.1 hterms).1
      have hrest := ih next hterms
      rw [quotedClause_columns_cons, quotedClause_movedColumns_cons]
      -- what the name ends in decides whether its closing quote begins a literal
      cases hsign : term.endsInSign with
      | true =>
          -- the literal that opens here reaches up to the quote in front of the next name
          have hgap : QuoteFree (", " ++ (next.text ++ " AS ")) :=
            quoteFree_append.2 ⟨hcomma, quoteFree_source next⟩
          have hhidden := shift_append_literal term.quoteFree_text (beq_iff_eq.1 hsign) hgap
            (next.text ++ ("\"" ++ (", " ++ quotedClause (LeafTerm.columns terms) start finish)))
            amount
          rw [hrest, LeafTerm.shift_text hterm] at hhidden
          simpa only [String.append_assoc, if_true] using hhidden
      | false =>
          have hlast : term.text.toList.getLast? ≠ some '=' := by
            simpa [LeafTerm.endsInSign] using hsign
          rw [shift_append_quote term.quoteFree_text (Or.inl hlast), LeafTerm.shift_text hterm,
            shift_comma_append, shift_source_append hnext, hrest]
          simp

/-- Renumbering a clause moves the boundaries, the names and the sources that no literal hides. -/
theorem shift_quotedClause_columns {terms : List LeafTerm}
    (hroom : ∀ term ∈ terms, term.index + amount ≤ largestNat64) :
    shift (quotedClause (LeafTerm.columns terms) start finish) amount =
      quotedClause (LeafTerm.movedColumns amount false terms) (start.move amount)
        (finish.move amount) := by
  cases terms with
  | nil => exact shift_quotedClause_nil hstart hfinish
  | cons term terms =>
      have hterm := (List.forall_mem_cons.1 hroom).1
      rw [quotedClause_columns_cons, quotedClause_movedColumns_cons, shift_source_append hterm,
        shift_from_name hstart hfinish term terms hroom]
      simp

end Renumbered

/-! ## When the whole clause is moved -/

/-- No term ahead of the last one ends in an equals sign. -/
def SignsLast (terms : List LeafTerm) : Prop :=
  ∀ term ∈ terms.dropLast, term.endsInSign = false

instance (terms : List LeafTerm) : Decidable (SignsLast terms) :=
  inferInstanceAs (Decidable (∀ term ∈ terms.dropLast, _))

theorem signsLast_cons {term : LeafTerm} {terms : List LeafTerm} :
    SignsLast (term :: terms) ↔ (term.endsInSign = true → terms = []) ∧ SignsLast terms := by
  cases terms with
  | nil => simp [SignsLast]
  | cons next terms => simp [SignsLast]

/-- The clause with hidden sources is the clause of the moved terms exactly when nothing is moved
or nothing is hidden. -/
theorem quotedClause_movedColumns_eq_iff (amount : Nat) (hidden : Bool) (terms : List LeafTerm)
    (start finish : LeafTerm) :
    quotedClause (LeafTerm.movedColumns amount hidden terms) start finish =
        quotedClause (LeafTerm.columns (terms.map (LeafTerm.move amount))) start finish ↔
      amount = 0 ∨ (hidden = true → terms = []) ∧ SignsLast terms := by
  induction terms generalizing hidden with
  | nil => simp [LeafTerm.movedColumns, LeafTerm.columns, SignsLast]
  | cons term terms ih =>
      rw [List.map_cons, quotedClause_movedColumns_cons, quotedClause_columns_cons, signsLast_cons]
      cases hidden with
      | false =>
          -- the first column is moved whole, so the question is that of the others
          have hothers := ih term.endsInSign
          simpa only [Bool.false_eq_true, if_false, String.append_right_inj, false_implies,
            true_and] using hothers
      | true =>
          by_cases hamount : amount = 0
          · have hothers := (ih term.endsInSign).2 (Or.inl hamount)
            subst hamount
            simp only [if_true, hothers, true_or, iff_true]
            rfl
          · -- the source in front still has its old leaf
            have hborder : ∀ rest, StartsApart (" AS " ++ rest).toList :=
              startsApart_append (by decide) (by decide)
            simp only [if_true, String.append_assoc]
            refine iff_of_false (LeafTerm.text_append_ne hamount (hborder _) (hborder _)) ?_
            simp [hamount]

/-- In a clause whose columns have no alias and take the names of their sources, renumbering moves
the boundaries, every name and every source, apart from the sources right behind a source that
ends in an equals sign: there the sign and the quotes around it read as a literal, which
renumbering leaves alone. So the clause becomes that of the moved terms exactly when no source but
the last ends in an equals sign, or nothing is added. -/
theorem shift_quotedClause (terms : List LeafTerm) (start finish : LeafTerm) (amount : Nat)
    (hroom : ∀ term ∈ start :: finish :: terms, term.index + amount ≤ largestNat64) :
    shift (quotedClause (LeafTerm.columns terms) start finish) amount =
        quotedClause (LeafTerm.movedColumns amount false terms) (start.move amount)
          (finish.move amount) ∧
      (shift (quotedClause (LeafTerm.columns terms) start finish) amount =
          quotedClause (LeafTerm.columns (terms.map (LeafTerm.move amount))) (start.move amount)
            (finish.move amount) ↔
        amount = 0 ∨ SignsLast terms) := by
  obtain ⟨hstart, hrest⟩ := List.forall_mem_cons.1 hroom
  obtain ⟨hfinish, hterms⟩ := List.forall_mem_cons.1 hrest
  have hmoved := shift_quotedClause_columns hstart hfinish hterms
  refine ⟨hmoved, ?_⟩
  rw [hmoved, quotedClause_movedColumns_eq_iff]
  simp

/-- The first two of three sources end in an equals sign. -/
def signedTerms : List LeafTerm :=
  [⟨9, ".x=", Or.inr ⟨"x=", by decide +kernel⟩⟩, ⟨1, ".y=", Or.inr ⟨"y=", by decide +kernel⟩⟩,
    ⟨2, "", Or.inl rfl⟩]

/-- The boundaries beside `signedTerms`, from the first leaf to the third. -/
def outerTerms : LeafTerm × LeafTerm :=
  (⟨1, ".sf", Or.inr ⟨"sf", by decide +kernel⟩⟩, ⟨3, "", Or.inl rfl⟩)

/-- The sources of the second and the third column keep their leaves, their names do not, and the
clause is not that of the moved terms. -/
theorem shift_quotedClause_signedTerms :
    (∀ term ∈ outerTerms.1 :: outerTerms.2 :: signedTerms, term.index + 1 ≤ largestNat64) ∧
      shift "M9.x= AS \"M9.x=\", M1.y= AS \"M1.y=\", M2 AS \"M2\", M1.sf AS sf, M3 AS ef" 1 =
        "M10.x= AS \"M10.x=\", M1.y= AS \"M2.y=\", M2 AS \"M3\", M2.sf AS sf, M4 AS ef" ∧
      shift (quotedClause (LeafTerm.columns signedTerms) outerTerms.1 outerTerms.2) 1 ≠
        quotedClause (LeafTerm.columns (signedTerms.map (LeafTerm.move 1)))
          (outerTerms.1.move 1) (outerTerms.2.move 1) := by
  have hroom : ∀ term ∈ outerTerms.1 :: outerTerms.2 :: signedTerms,
      term.index + 1 ≤ largestNat64 := by decide +kernel
  have hsigns : ¬ (1 = 0 ∨ SignsLast signedTerms) := by decide +kernel
  obtain ⟨htext, hmoved⟩ := shift_quotedClause signedTerms outerTerms.1 outerTerms.2 1 hroom
  exact ⟨hroom, htext, fun heq => hsigns (hmoved.1 heq)⟩

end EventAlgebra
