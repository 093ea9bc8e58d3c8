import EventAlgebra.Proofs.Scanning

/-!
# What a scan finds

A scan goes through a text from left to right. `ExactCut` says, without going through the text,
what it leaves: the tokens make up the text, a leaf is a whole word, a literal ends at the first
quote behind its own, and no run of characters between them holds a leaf, or the beginning of a
literal that has an end. Every text has one such cut, and the scan finds it.

A leaf of the text is then one of the tokens or lies inside of a literal, and never both
(`scan_exact`). The two cannot overlap in any other way, since the signs at the ends of a literal
are no characters of a leaf, and a literal begins with another character than a leaf.
-/

set_option autoImplicit false

namespace EventAlgebra

open Text

/-! ## Cuts of a text -/

/-- A leaf that stands between two texts. No word character is in front of its letter. Behind the
letter there are digits, at least one, and all that there are, and no word character follows. -/
structure LeafBetween (front digits back : List Char) : Prop where
  not_word_before : ∀ c ∈ front.getLast?, isWord c = false
  digits_ne_nil : digits ≠ []
  all_digits : ∀ d ∈ digits, isWordDigit d = true
  not_digit_after : ∀ c ∈ back.head?, isWordDigit c = false
  not_word_after : ∀ c ∈ back.head?, isWord c = false

/-- A cut of a text into single characters, literals and leaves that leaves out no literal and no
leaf. A gap is a run of single characters. -/
structure ExactCut (cs : List Char) (tokens : List Token) : Prop where
  /-- The tokens make up the text. -/
  concat_eq : Token.concat tokens = cs
  leaf : ∀ before digits after, tokens = before ++ .leaf digits :: after →
    LeafBetween (Token.concat before) digits (Token.concat after)
  literal : ∀ before body after, tokens = before ++ .literal body :: after → '"' ∉ body
  /-- There is no leaf in a gap. -/
  gap_leaf : ∀ before gap after, tokens = before ++ gap.map .plain ++ after →
    ∀ front digits back, gap = front ++ 'M' :: (digits ++ back) →
      ¬ LeafBetween (Token.concat before ++ front) digits (back ++ Token.concat after)
  /-- There is no beginning of a literal in a gap, unless no quote follows to end it. -/
  gap_literal : ∀ before gap after, tokens = before ++ gap.map .plain ++ after →
    ∀ front inside, gap = front ++ '=' :: '"' :: inside → '"' ∉ inside ++ Token.concat after

/-- A piece of text that lies inside of a literal, given with all that stands in front of it. -/
def InLiteral (tokens : List Token) (front piece : List Char) : Prop :=
  ∃ before body after pre post, tokens = before ++ .literal body :: after ∧
    body = pre ++ piece ++ post ∧ front = Token.concat before ++ '=' :: '"' :: pre

/-! ## Places in a cut -/

namespace Token

@[simp] theorem concat_nil : concat [] = [] := rfl

theorem concat_append (tokens rest : List Token) :
    concat (tokens ++ rest) = concat tokens ++ concat rest :=
  List.flatMap_append

theorem concat_cons (token : Token) (rest : List Token) :
    concat (token :: rest) = token.chars ++ concat rest :=
  List.flatMap_cons

theorem concat_map_plain (cs : List Char) : concat (cs.map plain) = cs := by
  induction cs with
  | nil => rfl
  | cons c cs ih => rw [List.map_cons, concat_cons, ih]; rfl

/-- Every character belongs to a token. -/
theorem exists_token_at {tokens : List Token} {c : Char} {front back : List Char}
    (h : concat tokens = front ++ c :: back) :
    ∃ before token after pre post, tokens = before ++ token :: after ∧
      token.chars = pre ++ c :: post ∧ front = concat before ++ pre ∧
        back = post ++ concat after := by
  induction tokens generalizing front with
  | nil => simp [concat] at h
  | cons token tokens ih =>
      have hlater : ∀ more, concat tokens = more ++ c :: back → front = token.chars ++ more →
          ∃ before token' after pre post, token :: tokens = before ++ token' :: after ∧
            token'.chars = pre ++ c :: post ∧ front = concat before ++ pre ∧
              back = post ++ concat after := by
        intro more hmore hfront
        obtain ⟨before, token', after, pre, post, htokens, hchars, hpre, hback⟩ := ih hmore
        refine ⟨token :: before, token', after, pre, post, ?_, hchars, ?_, hback⟩
        · rw [htokens, List.cons_append]
        · rw [hfront, hpre, concat_cons, List.append_assoc]
      rw [concat_cons] at h
      rcases List.append_eq_append_iff.1 h with ⟨more, hfront, hmore⟩ | ⟨more, hchars, hmore⟩
      · exact hlater more hmore hfront
      · cases more with
        | nil =>
            -- the token ends right in front of the character
            rw [List.nil_append] at hmore
            rw [List.append_nil] at hchars
            exact hlater [] hmore.symm (by rw [hchars, List.append_nil])
        | cons d more =>
            obtain ⟨rfl, rfl⟩ := List.cons.inj hmore
            exact ⟨[], token, tokens, front, more, rfl, hchars, rfl, rfl⟩

/-- A place in a text belongs to one token only. -/
theorem eq_of_same_place {before before' after after' : List Token} {token token' : Token}
    {pre pre' : List Char} (htokens : before ++ token :: after = before' ++ token' :: after')
    (hplace : concat before ++ pre = concat before' ++ pre')
    (hpre : pre.length < token.chars.length) (hpre' : pre'.length < token'.chars.length) :
    token = token' := by
  have hlength := congrArg List.length hplace
  rcases List.append_eq_append_iff.1 htokens with ⟨more, rfl, hmore⟩ | ⟨more, rfl, hmore⟩
  · cases more with
    | nil => exact (List.cons.inj hmore).1
    | cons first more =>
        -- the second place would be behind the whole first token
        obtain ⟨rfl, -⟩ := List.cons.inj hmore
        simp only [concat_append, concat_cons, List.length_append] at hlength
        omega
  · cases more with
    | nil => exact (List.cons.inj hmore).1.symm
    | cons first more =>
        -- and here the first behind the whole second token
        obtain ⟨rfl, -⟩ := List.cons.inj hmore
        simp only [concat_append, concat_cons, List.length_append] at hlength
        omega

/-- Characters that begin neither a literal nor a leaf are tokens of their own in every cut. -/
theorem eq_plain_append {tokens : List Token} {run rest : List Char}
    (h : concat tokens = run ++ rest) (hrun : ∀ c ∈ run, c ≠ '=' ∧ c ≠ 'M') :
    ∃ after, tokens = run.map plain ++ after ∧ concat after = rest := by
  induction run generalizing tokens with
  | nil => exact ⟨tokens, rfl, h⟩
  | cons c run ih =>
      obtain ⟨hequals, hletter⟩ := hrun c List.mem_cons_self
      cases tokens with
      | nil => simp [concat] at h
      | cons token tokens =>
          rw [concat_cons] at h
          cases token with
          | plain d =>
              obtain ⟨rfl, htail⟩ := List.cons.inj h
              obtain ⟨after, rfl, hafter⟩ :=
                ih htail fun e he => hrun e (List.mem_cons_of_mem d he)
              exact ⟨after, rfl, hafter⟩
          | literal body => exact absurd (List.cons.inj h).1.symm hequals
          | leaf digits => exact absurd (List.cons.inj h).1.symm hletter

end Token

/-! ## The state of a scan -/

theorem wordAtEnd_append (afterWord : Bool) (cs rest : List Char) :
    wordAtEnd afterWord (cs ++ rest) = wordAtEnd (wordAtEnd afterWord cs) rest := by
  cases hlast : rest.getLast? with
  | none => simp [wordAtEnd, List.getLast?_append, hlast]
  | some c => simp [wordAtEnd, List.getLast?_append, hlast]

theorem wordAtEnd_eq_false_iff {cs : List Char} :
    wordAtEnd false cs = false ↔ ∀ c ∈ cs.getLast?, isWord c = false := by
  cases hlast : cs.getLast? with
  | none => simp [wordAtEnd, hlast]
  | some c => simp [wordAtEnd, hlast]

/-- A leaf stands where the scan recognises one. -/
theorem leafBetween_iff {front digits back : List Char} :
    LeafBetween front digits back ↔
      wordAtEnd false front = false ∧
        leafAt? ('M' :: (digits ++ back)) = some (digits, back) := by
  rw [wordAtEnd_eq_false_iff, leafAt?_eq_some_iff]
  constructor
  · intro h
    exact ⟨h.not_word_before, rfl, h.digits_ne_nil, h.all_digits, h.not_word_after⟩
  · rintro ⟨hbefore, -, hne, hdigits, hafter⟩
    refine ⟨hbefore, hne, hdigits, fun c hc => ?_, hafter⟩
    -- a digit would be a word character
    rw [Bool.eq_false_iff]
    intro hdigit
    have hword := isWord_of_isWordDigit hdigit
    rw [hafter c hc] at hword
    cases hword

/-- A scan can be taken up between any two of its tokens. -/
theorem scanFrom_of_append {afterWord : Bool} {cs : List Char} {before after : List Token}
    (h : scanFrom afterWord cs = before ++ after) :
    scanFrom (wordAtEnd afterWord (Token.concat before)) (Token.concat after) = after := by
  induction before generalizing afterWord cs with
  | nil =>
      rw [List.nil_append] at h
      have hcs := concat_scanFrom afterWord cs
      rw [h] at hcs
      rw [hcs]
      exact h
  | cons token before ih =>
      cases cs with
      | nil => simp at h
      | cons c rest =>
          obtain ⟨first, behind, hnext⟩ : ∃ first behind,
              nextToken afterWord c rest = (first, behind) := ⟨_, _, rfl⟩
          rw [scanFrom_cons, hnext] at h
          obtain ⟨rfl, hbehind⟩ := List.cons.inj h
          rw [Token.concat_cons, wordAtEnd_append, wordAtEnd_chars hnext]
          exact ih hbehind

/-- Each token of a scan is the first token of what is left at its place. -/
theorem nextToken_of_scanFrom {afterWord : Bool} {cs : List Char} {before after : List Token}
    {token : Token} (h : scanFrom afterWord cs = before ++ token :: after) :
    ∃ c rest, token.chars ++ Token.concat after = c :: rest ∧
      nextToken (wordAtEnd afterWord (Token.concat before)) c rest =
        (token, Token.concat after) := by
  have hscan := scanFrom_of_append h
  rw [Token.concat_cons] at hscan
  have hne : token.chars ++ Token.concat after ≠ [] := by
    cases token <;> exact List.cons_ne_nil _ _
  obtain ⟨c, rest, hcs⟩ := List.exists_cons_of_ne_nil hne
  refine ⟨c, rest, hcs, ?_⟩
  rw [hcs, scanFrom_cons] at hscan
  obtain ⟨hfirst, hafter⟩ := List.cons.inj hscan
  refine Prod.ext hfirst ?_
  rw [← hafter, concat_scanFrom]

section Scan

variable {cs : List Char} {before after : List Token}

/-- The leaves of a scan are leaves of the text. -/
theorem leafBetween_of_scan {digits : List Char}
    (h : scanFrom false cs = before ++ .leaf digits :: after) :
    LeafBetween (Token.concat before) digits (Token.concat after) := by
  obtain ⟨c, rest, hcs, hnext⟩ := nextToken_of_scanFrom h
  rcases nextToken_cases hnext with ⟨body, htoken, -⟩ | ⟨_, htoken, -, hword, hleaf⟩ | ⟨htoken, -⟩
  · cases htoken
  · obtain rfl := Token.leaf.inj htoken
    rw [← hcs] at hleaf
    exact leafBetween_iff.2 ⟨hword, hleaf⟩
  · cases htoken

/-- The literals of a scan end at the first quote. -/
theorem quote_notMem_of_scan {body : List Char}
    (h : scanFrom false cs = before ++ .literal body :: after) : '"' ∉ body := by
  obtain ⟨c, rest, hcs, hnext⟩ := nextToken_of_scanFrom h
  rcases nextToken_cases hnext with ⟨_, htoken, hliteral⟩ | ⟨digits, htoken, -⟩ | ⟨htoken, -⟩
  · obtain rfl := Token.literal.inj htoken
    exact quote_notMem_of_literalAt? hliteral
  · cases htoken
  · cases htoken

/-- Where a scan leaves a single character, neither a literal nor a leaf begins. -/
theorem plain_of_scan {c : Char} (h : scanFrom false cs = before ++ .plain c :: after) :
    literalAt? (c :: Token.concat after) = none ∧
      (wordAtEnd false (Token.concat before) = true ∨
        leafAt? (c :: Token.concat after) = none) := by
  obtain ⟨d, rest, hcs, hnext⟩ := nextToken_of_scanFrom h
  obtain ⟨rfl, rfl⟩ := List.cons.inj hcs
  rcases nextToken_cases hnext with ⟨_, htoken, -⟩ | ⟨_, htoken, -⟩ | ⟨-, -, hliteral, hleaf⟩
  · cases htoken
  · cases htoken
  · exact ⟨hliteral, hleaf⟩

/-- Where a scan leaves the letter as a single character, there is no leaf. -/
theorem not_leafBetween_of_scan {digits back : List Char}
    (h : scanFrom false cs = before ++ .plain 'M' :: after)
    (hafter : Token.concat after = digits ++ back) :
    ¬ LeafBetween (Token.concat before) digits back := by
  intro hleaf
  obtain ⟨hword, hsome⟩ := leafBetween_iff.1 hleaf
  obtain ⟨-, hnone⟩ := plain_of_scan h
  rw [hword, hafter, hsome] at hnone
  simp at hnone

end Scan

/-- A scan is an exact cut of its text. -/
theorem exactCut_scanFrom (cs : List Char) : ExactCut cs (scanFrom false cs) := by
  refine ⟨concat_scanFrom false cs, fun _ _ _ => leafBetween_of_scan,
    fun _ _ _ => quote_notMem_of_scan, ?_, ?_⟩
  · rintro before gap after h front digits back rfl
    have hplace : scanFrom false cs = (before ++ front.map .plain) ++
        .plain 'M' :: ((digits ++ back).map .plain ++ after) := by
      rw [h]
      simp
    have hafter : Token.concat ((digits ++ back).map .plain ++ after) =
        digits ++ (back ++ Token.concat after) := by
      rw [Token.concat_append, Token.concat_map_plain, List.append_assoc]
    have hnone := not_leafBetween_of_scan hplace hafter
    rwa [Token.concat_append, Token.concat_map_plain] at hnone
  · rintro before gap after h front inside rfl
    have hplace : scanFrom false cs = (before ++ front.map .plain) ++
        .plain '=' :: (('"' :: inside).map .plain ++ after) := by
      rw [h]
      simp
    obtain ⟨hnone, -⟩ := plain_of_scan hplace
    rw [Token.concat_append, Token.concat_map_plain] at hnone
    exact literalAt?_eq_none_iff.1 hnone

namespace ExactCut

variable {cs : List Char} {before after : List Token}

/-- No literal begins at a single character of an exact cut. Its quote would be the next token. -/
theorem literalAt?_eq_none {c : Char} (h : ExactCut cs (before ++ .plain c :: after)) :
    literalAt? (c :: Token.concat after) = none := by
  by_cases hbegin : c = '=' ∧ (Token.concat after).head? = some '"'
  · obtain ⟨rfl, hhead⟩ := hbegin
    obtain ⟨inside, hinside⟩ := List.head?_eq_some_iff.1 hhead
    have hsplit : Token.concat after = ['"'] ++ inside := hinside
    obtain ⟨rest, rfl, hrest⟩ := Token.eq_plain_append hsplit (by simp)
    have hquote := h.gap_literal before ['=', '"'] rest (by simp) [] [] rfl
    rw [hinside, literalAt?_eq_none_iff, ← hrest]
    exact hquote
  · exact literalAt?_eq_none_of_ne hbegin

/-- No leaf begins at a single character of an exact cut, unless it would begin in the middle of a
word. Its digits would be the next tokens. -/
theorem leafAt?_eq_none {c : Char} (h : ExactCut cs (before ++ .plain c :: after)) :
    wordAtEnd false (Token.concat before) = true ∨ leafAt? (c :: Token.concat after) = none := by
  by_contra hnone
  rw [not_or, Bool.not_eq_true] at hnone
  obtain ⟨hword, hleaf⟩ := hnone
  obtain ⟨⟨digits, back⟩, hsome⟩ := Option.ne_none_iff_exists'.1 hleaf
  obtain rfl : c = 'M' := by
    by_contra hc
    exact hleaf (leafAt?_eq_none_of_ne hc _)
  obtain ⟨hafter, hne, hdigits, hback⟩ := leafAt?_eq_some_iff.1 hsome
  have hrun : ∀ d ∈ digits, d ≠ '=' ∧ d ≠ 'M' := by
    intro d hd
    constructor
    · rintro rfl
      exact absurd (hdigits '=' hd) (by decide)
    · rintro rfl
      exact absurd (hdigits 'M' hd) (by decide)
  obtain ⟨rest, rfl, rfl⟩ := Token.eq_plain_append hafter hrun
  apply h.gap_leaf before ('M' :: digits) rest (by simp) [] digits [] (by simp)
  rw [List.append_nil, List.nil_append, leafBetween_iff, ← hafter]
  exact ⟨hword, hsome⟩

end ExactCut

/-- In an exact cut the token at a place is the one that a scan takes there. -/
theorem ExactCut.nextToken_eq {cs : List Char} {before after : List Token} {token : Token}
    (h : ExactCut cs (before ++ token :: after)) :
    ∃ c rest, token.chars ++ Token.concat after = c :: rest ∧
      nextToken (wordAtEnd false (Token.concat before)) c rest = (token, Token.concat after) := by
  cases token with
  | literal body =>
      have hbody := h.literal before body after rfl
      have hnext := nextToken_literal (wordAtEnd false (Token.concat before))
        (Token.concat after) hbody
      exact ⟨'=', _, by simp [Token.chars], hnext⟩
  | leaf digits =>
      have hleaf := h.leaf before digits after rfl
      refine ⟨'M', _, rfl, ?_⟩
      rw [(leafBetween_iff.1 hleaf).1]
      exact nextToken_leaf hleaf.digits_ne_nil hleaf.all_digits _ hleaf.not_word_after
  | plain c => exact ⟨c, _, rfl, nextToken_plain h.literalAt?_eq_none h.leafAt?_eq_none⟩

/-- A cut that is exact is the one that a scan makes. The scan is followed token by token, and it
goes on from where the tokens before end. -/
theorem ExactCut.eq_scanFrom {cs : List Char} {tokens : List Token} (h : ExactCut cs tokens) :
    tokens = scanFrom false cs := by
  have hrest : ∀ rest before, tokens = before ++ rest →
      scanFrom (wordAtEnd false (Token.concat before)) (Token.concat rest) = rest := by
    intro rest
    induction rest with
    | nil =>
        intro before _
        exact scanFrom_nil _
    | cons token rest ih =>
        intro before htokens
        have hcut := h
        rw [htokens] at hcut
        obtain ⟨c, behind, hcs, hnext⟩ := hcut.nextToken_eq
        have hafter := ih (before ++ [token]) (by rw [htokens, List.append_assoc]; rfl)
        rw [Token.concat_append, wordAtEnd_append, Token.concat_cons, Token.concat_nil,
          List.append_nil, wordAtEnd_chars hnext] at hafter
        rw [Token.concat_cons, hcs, scanFrom_cons, hnext, hafter]
  have hscan := hrest tokens [] rfl
  rw [h.concat_eq] at hscan
  exact hscan.symm

/-! ## Leaves and literals -/

/-- A leaf that begins inside of a literal also ends there. The signs of the literal are no part of
it. -/
theorem exists_inside_of_literal {body pre post digits back rest : List Char}
    (hchars : (Token.literal body).chars = pre ++ 'M' :: post)
    (hback : digits ++ back = post ++ rest) (hdigits : ∀ d ∈ digits, isWordDigit d = true) :
    ∃ front inside, pre = '=' :: '"' :: front ∧ body = front ++ 'M' :: digits ++ inside := by
  obtain ⟨front, rfl⟩ : ∃ front, pre = '=' :: '"' :: front := by
    rcases pre with _ | ⟨c, _ | ⟨d, front⟩⟩
    · cases (List.cons.inj hchars).1
    · cases (List.cons.inj (List.cons.inj hchars).2).1
    · obtain ⟨rfl, htail⟩ := List.cons.inj hchars
      obtain ⟨rfl, -⟩ := List.cons.inj htail
      exact ⟨front, rfl⟩
  have hbody : body ++ ['"'] = front ++ 'M' :: post :=
    (List.cons.inj (List.cons.inj hchars).2).2
  -- the closing quote stands behind the letter
  obtain ⟨tail, rfl, rfl⟩ : ∃ tail, post = tail ++ ['"'] ∧ body = front ++ 'M' :: tail := by
    rcases List.append_eq_append_iff.1 hbody with ⟨more, -, hquote⟩ | ⟨more, rfl, hquote⟩
    · have hmem : 'M' ∈ ['"'] := by rw [hquote]; simp
      exact absurd hmem (by decide)
    · cases more with
      | nil => cases (List.cons.inj hquote).1
      | cons c tail =>
          obtain ⟨rfl, rfl⟩ := List.cons.inj hquote
          exact ⟨tail, rfl, rfl⟩
  -- and so it stands behind the digits
  rw [List.append_assoc] at hback
  rcases List.append_eq_append_iff.1 hback with ⟨inside, rfl, -⟩ | ⟨more, rfl, hquote⟩
  · exact ⟨front, inside, rfl, by simp⟩
  · cases more with
    | nil => exact ⟨front, [], rfl, by simp⟩
    | cons c more =>
        obtain ⟨rfl, -⟩ := List.cons.inj hquote
        exact absurd (by simp) (quote_notMem_of_isWordDigit hdigits)

/-- A leaf of a text is a token of its scan, or lies inside of a literal. -/
theorem found_or_inLiteral {cs front digits back : List Char}
    (hcs : cs = front ++ 'M' :: (digits ++ back)) (hleaf : LeafBetween front digits back) :
    (∃ before after, scanFrom false cs = before ++ .leaf digits :: after ∧
        Token.concat before = front) ∨
      InLiteral (scanFrom false cs) front ('M' :: digits) := by
  have hconcat : Token.concat (scanFrom false cs) = front ++ 'M' :: (digits ++ back) := by
    rw [concat_scanFrom, hcs]
  obtain ⟨before, token, after, pre, post, hscan, hchars, hfront, hback⟩ :=
    Token.exists_token_at hconcat
  cases token with
  | plain c =>
      -- a leaf that the scan has passed over
      obtain ⟨rfl, hpre⟩ : pre = [] ∧ [c] = 'M' :: post := by
        rcases pre with _ | ⟨d, pre⟩
        · exact ⟨rfl, hchars⟩
        · have htail := (List.cons.inj hchars).2
          simp at htail
      obtain ⟨rfl, rfl⟩ := List.cons.inj hpre
      rw [List.append_nil] at hfront
      rw [List.nil_append] at hback
      rw [hfront] at hleaf
      exact absurd hleaf (not_leafBetween_of_scan hscan hback.symm)
  | literal body =>
      obtain ⟨inner, inside, rfl, hbody⟩ :=
        exists_inside_of_literal hchars hback hleaf.all_digits
      exact Or.inr ⟨before, body, after, inner, inside, hscan, hbody, hfront⟩
  | leaf digits' =>
      have hleaf' := leafBetween_of_scan hscan
      -- the letter is the first character of the token, and the only one that is no digit
      obtain ⟨rfl, rfl⟩ : pre = [] ∧ digits' = post := by
        rcases pre with _ | ⟨d, pre⟩
        · exact ⟨rfl, (List.cons.inj hchars).2⟩
        · have hmem : 'M' ∈ digits' := by
            rw [(List.cons.inj hchars).2]
            simp
          exact absurd (hleaf'.all_digits 'M' hmem) (by decide)
      have hsame := (leafBetween_iff.1 hleaf').2
      rw [← hback, (leafBetween_iff.1 hleaf).2] at hsame
      obtain rfl : digits = digits' := (Prod.mk.inj (Option.some.inj hsame)).1
      rw [List.append_nil] at hfront
      exact Or.inl ⟨before, after, hscan, hfront.symm⟩

/-- What a scan finds does not lie inside of a literal. -/
theorem not_inLiteral_of_found {tokens before after : List Token} {digits : List Char}
    (h : tokens = before ++ .leaf digits :: after) :
    ¬ InLiteral tokens (Token.concat before) ('M' :: digits) := by
  rintro ⟨before', body, after', pre, post, htokens, hbody, hfront⟩
  have htoken : Token.leaf digits = Token.literal body := by
    apply Token.eq_of_same_place (h.symm.trans htokens)
      ((List.append_nil (Token.concat before)).trans hfront)
    · simp [Token.chars]
    · simp [Token.chars, hbody]
  cases htoken

/-- The scan of a text is the one exact cut of it. A leaf of the text is found in it if and only if
the leaf does not lie inside of a literal. -/
theorem scan_exact (text : String) :
    (∀ tokens, ExactCut text.toList tokens ↔ tokens = scan text) ∧
      ∀ front digits back, text.toList = front ++ 'M' :: (digits ++ back) →
        LeafBetween front digits back →
          ((∃ before after, scan text = before ++ .leaf digits :: after ∧
              Token.concat before = front) ↔
            ¬ InLiteral (scan text) front ('M' :: digits)) := by
  constructor
  · intro tokens
    constructor
    · exact ExactCut.eq_scanFrom
    · rintro rfl
      exact exactCut_scanFrom text.toList
  · intro front digits back htext hleaf
    constructor
    · rintro ⟨before, after, hscan, rfl⟩
      exact not_inLiteral_of_found hscan
    · exact (found_or_inLiteral htext hleaf).resolve_right

/-- A text with a leaf in a literal, and one behind the beginning of a literal that does not end. -/
def mixedText : String :=
  "x=\"M1\" ROM2 M34 y=\"M5"

/-- The leaf in the literal is not found, and the one in the literal that does not end is. -/
theorem scan_exact_mixedText :
    LeafBetween "x=\"".toList ['1'] "\" ROM2 M34 y=\"M5".toList ∧
      (¬ ∃ before after, scan mixedText = before ++ .leaf ['1'] :: after ∧
        Token.concat before = "x=\"".toList) ∧
      LeafBetween "x=\"M1\" ROM2 M34 y=\"".toList ['5'] [] ∧
      ¬ InLiteral (scan mixedText) "x=\"M1\" ROM2 M34 y=\"".toList ['M', '5'] := by
  have hquoted : LeafBetween "x=\"".toList ['1'] "\" ROM2 M34 y=\"M5".toList :=
    leafBetween_iff.2 ⟨by decide, by decide⟩
  have hopen : LeafBetween "x=\"M1\" ROM2 M34 y=\"".toList ['5'] [] :=
    leafBetween_iff.2 ⟨by decide, by decide⟩
  refine ⟨hquoted, fun hfound => ?_, hopen, ?_⟩
  · refine ((scan_exact mixedText).2 _ _ _ (by decide) hquoted).1 hfound ?_
    exact ⟨[.plain 'x'], ['M', '1'], (scan mixedText).drop 2, [], [], by decide +kernel, rfl, rfl⟩
  · refine ((scan_exact mixedText).2 _ _ _ (by decide) hopen).1 ?_
    exact ⟨(scan mixedText).dropLast, [], by decide +kernel, by decide +kernel⟩

end EventAlgebra
