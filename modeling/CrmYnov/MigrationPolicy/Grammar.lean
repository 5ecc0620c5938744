import CrmYnov.Base.Checked
import CrmYnov.Base.Lexing
import CrmYnov.Js.Text

/-!
# The texts of migrations, as the policy cuts them and as PostgreSQL does

The migration policy judges a migration by its statements, which it cuts with a lexer of its own.
This file has this lexer, and one that follows the rules of PostgreSQL for what separates and
hides: blanks, comments, quotes, dollar quotes, and the characters of identifiers. Numbers and
operators are cut alike by both.

`MigrationPolicy.sqlStatements_eq` says where the two agree: on every text that the policy can cut,
as long as no comment shows anything after a carriage return, no blank is one that PostgreSQL takes
for a letter, and no word goes on for PostgreSQL where the policy ends it. The first condition is
what a migration can be disguised with: for PostgreSQL a comment ends at a carriage return.
-/

namespace CrmYnov.MigrationPolicy

open Checked Js List Option

inductive TokenKind
  | word | number | symbol | string | identifier | body
deriving DecidableEq

structure Token where
  kind : TokenKind
  value : String
deriving DecidableEq

inductive LexError
  | ambiguous_sql_escape | unterminated_sql_quote | unknown_sql_token | ambiguous_sql_comment
  | unbounded_sql_body

/-- `[A-Za-z_]` -/
def isWordStart (c : Char) : Bool := isLower c || isUpper c || c == '_'

/-- `[A-Za-z_0-9]` -/
def isWordChar (c : Char) : Bool := isWordStart c || isDigit c

def startsWith (text : List Char) (head : String) : Bool := head.toList.isPrefixOf text

/-! ### What both lexers share -/

def operator? (text : List Char) : Option String :=
  [">=", "<=", "<>", "!=", "(", ")", ",", ">", "<", "=", "+", "-", ".", "[", "]", "~"].find?
    (startsWith text)

/-- `/^\d+(?:\.\d+)?/` -/
def number (text : List Char) : List Char :=
  let whole := text.takeWhile isDigit
  let fraction := match text.dropWhile isDigit with
    | '.' :: rest => rest.takeWhile isDigit
    | _ => []
  if whole = [] ∨ fraction = [] then whole else whole ++ '.' :: fraction

/-- A token of some characters that the text begins with. -/
def taken (kind : TokenKind) (value : List Char) (text : List Char) : Token × List Char :=
  (⟨kind, String.ofList value⟩, text.drop value.length)

def otherToken (text : List Char) : Except LexError (Token × List Char) :=
  if number text ≠ [] then .ok (taken .number (number text) text)
  else
    match operator? text with
    | none => .error .unknown_sql_token
    | some operator => .ok (taken .symbol operator.toList text)

/-- What stands before and after the first occurrence of some characters. -/
def cutAt (mark : List Char) : List Char → Option (List Char × List Char)
  | [] => if mark = [] then some ([], []) else none
  | c :: cs =>
    if mark.isPrefixOf (c :: cs) then some ([], (c :: cs).drop mark.length)
    else (cutAt mark cs).map fun cut => (c :: cut.1, cut.2)

/-- The delimiter of a dollar quote, after its first dollar: its tag begins with a character of a
first class, and goes on with those of a second one. -/
def delimiter (start cont : Char → Bool) (text : List Char) : Option (List Char) :=
  let tag := text.takeWhile cont
  if tag.head?.all start ∧ (text.dropWhile cont).head? = some '$' then some ('$' :: tag ++ ['$'])
  else none

/-! ### The lexer of the policy -/

/-- `quotedToken`, after the quote: the value and what follows the closing quote. -/
def quotedToken (quote : Char) : List Char → List Char → Except LexError (List Char × List Char)
  | [], _ => .error .unterminated_sql_quote
  | [c], value =>
    if c = quote then .ok (value, [])
    else if c = '\\' then .error .ambiguous_sql_escape
    else .error .unterminated_sql_quote
  | c :: d :: cs, value =>
    if c = quote then
      if d = quote then quotedToken quote cs (value ++ [quote]) else .ok (value, d :: cs)
    else if c = '\\' then .error .ambiguous_sql_escape
    else quotedToken quote (d :: cs) (value ++ [c])

def quotedKind (quote : Char) : TokenKind := if quote = '\'' then .string else .identifier

def unquotedToken (text : List Char) : Except LexError (Token × List Char) :=
  if text.head?.any isWordStart then .ok (taken .word (text.takeWhile isWordChar) text)
  else otherToken text

/-- The body of a dollar quote, after its first dollar. -/
def dollarToken (text : List Char) : Except LexError (Token × List Char) := do
  let mark ← demand (delimiter isWordStart isWordChar text) .unknown_sql_token
  let (body, rest) ← demand (cutAt mark (text.drop (mark.length - 1))) .unbounded_sql_body
  require (utf16Length mark + utf16Length body ≤ 10000) .unbounded_sql_body
  pure (⟨.body, String.ofList body⟩, rest)

def nextSqlToken (c : Char) (cs : List Char) : Except LexError (Token × List Char) :=
  if startsWith (c :: cs) "/*" || startsWith (c :: cs) "*/" then .error .ambiguous_sql_comment
  else if c = '$' then dollarToken cs
  else if c = '\'' ∨ c = '"' then
    (quotedToken c cs []).map fun cut => (⟨quotedKind c, String.ofList cut.1⟩, cut.2)
  else unquotedToken (c :: cs)

/-- One turn of the loop of `sqlStatements`. -/
def policyCut (c : Char) (cs : List Char) : Except LexError (Cut Token × List Char) :=
  if isSpace c then .ok (.blank, cs)
  else if startsWith (c :: cs) "--" then
    .ok (.blank, ((c :: cs).dropWhile fun d => d != '\n').drop 1)
  else if c = ';' then .ok (.stop, cs)
  else (nextSqlToken c cs).map fun cut => (.token cut.1, cut.2)

/-! ### The rules of PostgreSQL -/

namespace Postgres

variable (c : Char)

def isSpace : Bool :=
  c == ' ' || c == '\t' || c == '\n' || c == '\r' || c.val == 11 || c.val == 12

def isNewline : Bool := c == '\n' || c == '\r'

/-- The first characters of identifiers: beyond ASCII, every character is a letter. -/
def isIdentStart : Bool := isWordStart c || 128 ≤ c.val

/-- The characters of the tag of a dollar quote. -/
def isTagChar : Bool := isWordChar c || 128 ≤ c.val

/-- The characters of identifiers: a dollar is one of them. -/
def isIdentChar : Bool := isTagChar c || c == '$'

/-- The text in quotes, after the quote: a backslash means nothing. -/
def quoted (quote : Char) : List Char → List Char → Except LexError (List Char × List Char)
  | [], _ => .error .unterminated_sql_quote
  | [c], value => if c = quote then .ok (value, []) else .error .unterminated_sql_quote
  | c :: d :: cs, value =>
    if c = quote then
      if d = quote then quoted quote cs (value ++ [quote]) else .ok (value, d :: cs)
    else quoted quote (d :: cs) (value ++ [c])

def dollarQuoted (text : List Char) : Except LexError (Token × List Char) := do
  let mark ← demand (delimiter isIdentStart isTagChar text) .unknown_sql_token
  let (body, rest) ← demand (cutAt mark (text.drop (mark.length - 1))) .unbounded_sql_body
  pure (⟨.body, String.ofList body⟩, rest)

/-- What is not blank, not a comment and not the end of a statement. Comments in slashes are left
out: the policy has no text that has one. -/
def token (cs : List Char) : Except LexError (Token × List Char) :=
  if startsWith (c :: cs) "/*" then .error .ambiguous_sql_comment
  else if c = '$' then dollarQuoted cs
  else if c = '\'' ∨ c = '"' then
    (quoted c cs []).map fun cut => (⟨quotedKind c, String.ofList cut.1⟩, cut.2)
  else if isIdentStart c then .ok (taken .word ((c :: cs).takeWhile isIdentChar) (c :: cs))
  else otherToken (c :: cs)

/-- What PostgreSQL cuts off the front of a text. -/
def cut (c : Char) (cs : List Char) : Except LexError (Cut Token × List Char) :=
  if isSpace c then .ok (.blank, cs)
  else if startsWith (c :: cs) "--" then
    .ok (.blank, (c :: cs).dropWhile fun d => !isNewline d)
  else if c = ';' then .ok (.stop, cs)
  else (token c cs).map fun cut => (.token cut.1, cut.2)

end Postgres

/-! ### What the lexers leave -/

theorem length_dropWhile_le (p : Char → Bool) (text : List Char) :
    (text.dropWhile p).length ≤ text.length :=
  (dropWhile_sublist p).length_le

theorem Postgres.quoted_length {quote : Char} {text value : List Char} {cut : List Char × List Char}
    (h : Postgres.quoted quote text value = .ok cut) : cut.2.length ≤ text.length := by
  induction text, value using Postgres.quoted.induct quote with
  | case1 value => cases h
  | case2 value =>
    rw [Postgres.quoted, if_pos rfl] at h
    cases h
    exact Nat.zero_le _
  | case3 c value hne =>
    rw [Postgres.quoted, if_neg hne] at h
    cases h
  | case4 cs value ih =>
    rw [Postgres.quoted, if_pos rfl, if_pos rfl] at h
    have hle := ih h
    simp only [length_cons]
    omega
  | case5 d cs value hne =>
    rw [Postgres.quoted, if_pos rfl, if_neg hne] at h
    cases h
    exact Nat.le_succ _
  | case6 c d cs value hne ih =>
    rw [Postgres.quoted, if_neg hne] at h
    have hle := ih h
    simp only [length_cons] at hle ⊢
    omega

/-- **The two lexers agree on a text in quotes** that the policy can cut: it has no backslash. -/
theorem quoted_of_quotedToken {quote : Char} {text value : List Char} {cut : List Char × List Char}
    (h : quotedToken quote text value = .ok cut) : Postgres.quoted quote text value = .ok cut := by
  induction text, value using Postgres.quoted.induct quote with
  | case1 value => cases h
  | case2 value =>
    rw [quotedToken, if_pos rfl] at h
    rw [Postgres.quoted, if_pos rfl]
    exact h
  | case3 c value hne =>
    rw [quotedToken, if_neg hne] at h
    split at h <;> cases h
  | case4 cs value ih =>
    rw [quotedToken, if_pos rfl, if_pos rfl] at h
    rw [Postgres.quoted, if_pos rfl, if_pos rfl]
    exact ih h
  | case5 d cs value hne =>
    rw [quotedToken, if_pos rfl, if_neg hne] at h
    rw [Postgres.quoted, if_pos rfl, if_neg hne]
    exact h
  | case6 c d cs value hne ih =>
    rw [quotedToken, if_neg hne] at h
    rw [Postgres.quoted, if_neg hne]
    split at h
    · cases h
    · exact ih h

theorem cutAt_length {mark text : List Char} {cut : List Char × List Char}
    (h : cutAt mark text = some cut) : cut.2.length ≤ text.length := by
  induction text generalizing cut with
  | nil =>
    rw [cutAt] at h
    split at h
    · cases h
      exact Nat.le_refl _
    · cases h
  | cons c cs ih =>
    rw [cutAt] at h
    split at h
    · cases h
      exact (drop_sublist _ _).length_le
    · obtain ⟨rest, hrest, rfl⟩ := map_eq_some_iff.mp h
      have hle := ih hrest
      exact Nat.le_succ_of_le hle

theorem taken_length {kind : TokenKind} {value : List Char} (hvalue : value ≠ []) (c : Char)
    (cs : List Char) : (taken kind value (c :: cs)).2.length ≤ cs.length := by
  have hpos := length_pos_of_ne_nil hvalue
  simp only [taken, length_drop, length_cons]
  omega

variable {text : List Char}

theorem operator_ne_nil {operator : String} (h : operator? text = some operator) :
    operator.toList ≠ [] := by
  have hmem := mem_of_find?_eq_some h
  have hall : ∀ o ∈ [">=", "<=", "<>", "!=", "(", ")", ",", ">", "<", "=", "+", "-", ".", "[", "]",
      "~"], o.toList ≠ [] := by decide
  exact hall operator hmem

variable {cut : Token × List Char} {cs : List Char}

theorem otherToken_length {c : Char}
    (h : otherToken (c :: cs) = .ok cut) : cut.2.length ≤ cs.length := by
  rw [otherToken] at h
  split at h
  · rename_i hnumber
    cases h
    exact taken_length hnumber c cs
  · split at h
    · cases h
    · rename_i operator hoperator
      cases h
      exact taken_length (operator_ne_nil hoperator) c cs

theorem Postgres.dollarQuoted_length
    (h : Postgres.dollarQuoted text = .ok cut) : cut.2.length ≤ text.length := by
  simp only [Postgres.dollarQuoted, ok_iff] at h
  obtain ⟨mark, -, ⟨body, rest⟩, hcut, rfl⟩ := h
  exact (cutAt_length hcut).trans (drop_sublist _ _).length_le

/-! ### What the lexers agree on -/

theorem takeWhile_eq {p q : Char → Bool} (hpq : ∀ c, p c = true → q c = true)
    (hend : ∀ d ∈ (text.dropWhile p).head?, q d = false) :
    text.takeWhile q = text.takeWhile p ∧ text.dropWhile q = text.dropWhile p := by
  induction text with
  | nil => exact ⟨rfl, rfl⟩
  | cons c cs ih =>
    cases hp : p c with
    | true =>
      rw [dropWhile_cons_of_pos hp] at hend
      obtain ⟨htake, hdrop⟩ := ih hend
      rw [takeWhile_cons_of_pos hp, takeWhile_cons_of_pos (hpq c hp),
        dropWhile_cons_of_pos hp, dropWhile_cons_of_pos (hpq c hp), htake, hdrop]
      exact ⟨rfl, rfl⟩
    | false =>
      have hnp : ¬p c = true := by rw [hp]; exact Bool.false_ne_true
      rw [dropWhile_cons_of_neg hnp] at hend
      have hnq : ¬q c = true := by rw [hend c rfl]; exact Bool.false_ne_true
      rw [takeWhile_cons_of_neg hnp, takeWhile_cons_of_neg hnq,
        dropWhile_cons_of_neg hnp, dropWhile_cons_of_neg hnq]
      exact ⟨rfl, rfl⟩

theorem dollarQuoted_of_dollarToken (h : dollarToken text = .ok cut) :
    Postgres.dollarQuoted text = .ok cut := by
  simp only [dollarToken, ok_iff] at h
  obtain ⟨mark, hmark, ⟨body, rest⟩, hcut, _, -, rfl⟩ := h
  have hmark' : delimiter Postgres.isIdentStart Postgres.isTagChar text = some mark := by
    rw [delimiter] at hmark ⊢
    split at hmark
    · rename_i htag
      obtain ⟨hstart, hdollar⟩ := htag
      have hend : ∀ d ∈ (text.dropWhile isWordChar).head?, Postgres.isTagChar d = false := by
        intro d hd
        rw [hdollar, mem_some_iff] at hd
        rw [← hd]
        decide
      have hwider : ∀ c, isWordChar c = true → Postgres.isTagChar c = true := fun c hc => by
        rw [Postgres.isTagChar, hc, Bool.true_or]
      have hsame := takeWhile_eq hwider hend
      have hstart' : ((text.takeWhile isWordChar).head?.all Postgres.isIdentStart) = true := by
        cases hhead : (text.takeWhile isWordChar).head? with
        | none => rfl
        | some d =>
          rw [hhead, all_some] at hstart
          rw [all_some, Postgres.isIdentStart, hstart, Bool.true_or]
      rw [hsame.1, hsame.2, if_pos ⟨hstart', hdollar⟩]
      exact hmark
    · cases hmark
  simp only [Postgres.dollarQuoted, ok_iff]
  exact ⟨mark, hmark', ⟨body, rest⟩, hcut, rfl, rfl⟩

theorem val_lt_of_otherToken {c : Char}
    (h : otherToken (c :: cs) = .ok cut) : c.val < 128 := by
  rw [otherToken] at h
  split at h
  · rename_i hnumber
    by_contra hlarge
    have hdigit : isDigit c = false := by
      rw [isDigit, Bool.and_eq_false_iff]
      refine .inr (decide_eq_false fun hle => hlarge ?_)
      have hle' : c.val.toNat ≤ '9'.val.toNat := UInt32.le_iff_toNat_le.mp hle
      exact UInt32.lt_iff_toNat_lt.mpr (Nat.lt_of_le_of_lt hle' (by decide))
    have hnone : number (c :: cs) = [] := by
      rw [number, takeWhile_cons_of_neg (by rw [hdigit]; exact Bool.false_ne_true)]
      exact if_pos (.inl rfl)
    exact hnumber hnone
  · split at h
    · cases h
    · rename_i operator hoperator
      have hmem := mem_of_find?_eq_some hoperator
      have hstarts : startsWith (c :: cs) operator = true := find?_some hoperator
      have hall : ∀ o ∈ [">=", "<=", "<>", "!=", "(", ")", ",", ">", "<", "=", "+", "-", ".", "[",
          "]", "~"], o.toList.head?.all fun d => d.val < 128 := by decide
      have hne := operator_ne_nil hoperator
      cases hchars : operator.toList with
      | nil => exact absurd hchars hne
      | cons d ds =>
        rw [startsWith, hchars, isPrefixOf_cons_cons, Bool.and_eq_true, beq_iff_eq] at hstarts
        rw [← hstarts.1]
        simpa [hchars] using hall operator hmem

theorem policyCut_length (c : Char) (cs : List Char) (piece : Cut Token) (rest : List Char)
    (h : policyCut c cs = .ok (piece, rest)) : rest.length ≤ cs.length := by
  rw [policyCut] at h
  split at h
  · cases h
    exact Nat.le_refl _
  · split at h
    · cases h
      have hle := length_dropWhile_le (fun d => d != '\n') (c :: cs)
      simp only [length_drop, length_cons] at hle ⊢
      omega
    · split at h
      · cases h
        exact Nat.le_refl _
      · cases htoken : nextSqlToken c cs with
        | error e => rw [htoken] at h; cases h
        | ok cut =>
          rw [htoken] at h
          cases h
          rw [nextSqlToken] at htoken
          split at htoken
          · cases htoken
          · split at htoken
            · exact Postgres.dollarQuoted_length (dollarQuoted_of_dollarToken htoken)
            · split at htoken
              · cases hquoted : quotedToken c cs [] with
                | error e => rw [hquoted] at htoken; cases htoken
                | ok quoted =>
                  rw [hquoted] at htoken
                  rw [← Except.ok.inj htoken]
                  exact Postgres.quoted_length (quoted_of_quotedToken hquoted)
              · rw [unquotedToken] at htoken
                split at htoken
                · rename_i hstart
                  rw [← Except.ok.inj htoken]
                  refine taken_length ?_ c cs
                  have hword : isWordChar c = true := by
                    rw [isWordChar, show isWordStart c = true from hstart, Bool.true_or]
                  rw [takeWhile_cons_of_pos hword]
                  exact cons_ne_nil _ _
                · exact otherToken_length htoken

theorem Postgres.cut_length (c : Char) (cs : List Char) (piece : Cut Token) (rest : List Char)
    (h : Postgres.cut c cs = .ok (piece, rest)) : rest.length ≤ cs.length := by
  rw [Postgres.cut] at h
  split at h
  · cases h
    exact Nat.le_refl _
  · split at h
    · rename_i hcomment
      cases h
      have hdash : c = '-' := by
        rw [startsWith, show "--".toList = ['-', '-'] from rfl, List.isPrefixOf_cons_cons,
          Bool.and_eq_true, beq_iff_eq] at hcomment
        exact hcomment.1.symm
      rw [hdash, dropWhile_cons_of_pos (by decide)]
      exact length_dropWhile_le _ cs
    · split at h
      · cases h
        exact Nat.le_refl _
      · cases htoken : Postgres.token c cs with
        | error e => rw [htoken] at h; cases h
        | ok cut =>
          rw [htoken] at h
          cases h
          rw [Postgres.token] at htoken
          split at htoken
          · cases htoken
          · split at htoken
            · exact Postgres.dollarQuoted_length htoken
            · split at htoken
              · cases hquoted : Postgres.quoted c cs [] with
                | error e => rw [hquoted] at htoken; cases htoken
                | ok quoted =>
                  rw [hquoted] at htoken
                  rw [← Except.ok.inj htoken]
                  exact Postgres.quoted_length hquoted
              · split at htoken
                · rename_i hstart
                  rw [← Except.ok.inj htoken]
                  refine taken_length ?_ c cs
                  have hident : Postgres.isIdentChar c = true := by
                    rw [Postgres.isIdentStart, Bool.or_eq_true] at hstart
                    rw [Postgres.isIdentChar, Postgres.isTagChar, isWordChar]
                    rcases hstart with hstart | hstart
                    · rw [hstart, Bool.true_or, Bool.true_or, Bool.true_or]
                    · rw [hstart, Bool.or_true, Bool.true_or]
                  rw [takeWhile_cons_of_pos hident]
                  exact cons_ne_nil _ _
                · exact otherToken_length htoken

def policyLexer : Lexer Token LexError := ⟨policyCut, policyCut_length⟩

def postgresLexer : Lexer Token LexError := ⟨Postgres.cut, Postgres.cut_length⟩

def sqlStatements (source : String) : Except LexError (List (List Token)) :=
  policyLexer.statements source.toList

def Postgres.statements (source : String) : Except LexError (List (List Token)) :=
  postgresLexer.statements source.toList

/-! ### Where they agree -/

/-- What stands in a comment after a carriage return is blank, or another comment. -/
def quiet : Bool → List Char → Bool
  | _, [] => true
  | true, c :: cs => quiet (c != '\r') cs
  | false, c :: cs =>
    if Postgres.isSpace c then quiet false cs else c == '-' && cs.head? == some '-' && quiet true cs

/-- **Nothing at this place is other for PostgreSQL than for the policy**: a blank is one, a comment
shows nothing after a carriage return, and a word ends where it does. -/
def Plain (c : Char) (cs : List Char) : Prop :=
  if isSpace c then Postgres.isSpace c = true
  else if startsWith (c :: cs) "--" then
    quiet true ((c :: cs).takeWhile fun d => d != '\n') = true
  else isWordStart c = true →
    ∀ d ∈ ((c :: cs).dropWhile isWordChar).head?, Postgres.isIdentChar d = false

instance (c : Char) (cs : List Char) : Decidable (Plain c cs) := by
  unfold Plain
  infer_instance

/-- **What the policy skips as one comment, PostgreSQL skips as blanks and comments.** -/
theorem skips_comment {body : List Char} (hbody : ∀ c ∈ body, c ≠ '\n')
    (htext : text = [] ∨ ∃ rest, text = '\n' :: rest) :
    (quiet true body = true → postgresLexer.Skips
      ((body ++ text).dropWhile fun d => !Postgres.isNewline d) (text.drop 1)) ∧
    (quiet false body = true → postgresLexer.Skips (body ++ text) (text.drop 1)) := by
  induction body with
  | nil =>
    rcases htext with rfl | ⟨rest, rfl⟩
    · exact ⟨fun _ => .refl _, fun _ => .refl _⟩
    · have hline : postgresLexer.Skips ('\n' :: rest) rest := .drop rfl (.refl rest)
      exact ⟨fun _ => hline, fun _ => hline⟩
  | cons c cs ih =>
    obtain ⟨hcomment, hblank⟩ := ih fun d hd => hbody d (mem_cons_of_mem _ hd)
    have hc := hbody c (mem_cons_self ..)
    refine ⟨fun h => ?_, fun h => ?_⟩
    · rw [quiet] at h
      rw [cons_append]
      by_cases hreturn : c = '\r'
      · subst hreturn
        rw [dropWhile_cons_of_neg (by decide)]
        exact .drop rfl (hblank h)
      · have hgoes : (!Postgres.isNewline c) = true := by
          simp [Postgres.isNewline, hc, hreturn]
        rw [dropWhile_cons_of_pos (p := fun d => !Postgres.isNewline d) hgoes]
        refine hcomment ?_
        rwa [show (c != '\r') = true by simpa using hreturn] at h
    · rw [quiet] at h
      rw [cons_append]
      split at h
      · rename_i hspace
        refine .drop ?_ (hblank h)
        exact if_pos hspace
      · rename_i hspace
        simp only [Bool.and_eq_true, beq_iff_eq] at h
        obtain ⟨⟨rfl, hnext⟩, hquiet⟩ := h
        cases cs with
        | nil => cases hnext
        | cons d ds =>
          cases hnext
          refine .drop ?_ (hcomment hquiet)
          rfl

theorem isSpace_of_postgres {c : Char} (h : Postgres.isSpace c = true) : isSpace c = true := by
  simp only [Postgres.isSpace, Bool.or_eq_true, beq_iff_eq] at h
  rcases h with (((((rfl | rfl) | rfl) | rfl) | h) | h)
  · decide
  · decide
  · decide
  · decide
  · rw [isSpace, h]; decide
  · rw [isSpace, h]; decide

/-- **The two lexers agree on a token** that the policy can cut, where the text is plain. -/
theorem token_of_nextSqlToken {c : Char}
    (h : nextSqlToken c cs = .ok cut) (hplain : isWordStart c = true →
      ∀ d ∈ ((c :: cs).dropWhile isWordChar).head?, Postgres.isIdentChar d = false) :
    Postgres.token c cs = .ok cut := by
  rw [nextSqlToken] at h
  rw [Postgres.token]
  split at h
  · cases h
  · rename_i hslash
    rw [Bool.or_eq_true, not_or] at hslash
    rw [if_neg hslash.1]
    split at h
    · rename_i hdollar
      rw [if_pos hdollar]
      exact dollarQuoted_of_dollarToken h
    · rename_i hdollar
      rw [if_neg hdollar]
      split at h
      · rename_i hquote
        rw [if_pos hquote]
        cases hquoted : quotedToken c cs [] with
        | error e => rw [hquoted] at h; cases h
        | ok quoted =>
          rw [hquoted] at h
          rw [quoted_of_quotedToken hquoted]
          exact h
      · rename_i hquote
        rw [if_neg hquote]
        rw [unquotedToken] at h
        split at h
        · rename_i hstart
          have hstart' : isWordStart c = true := hstart
          rw [if_pos (by rw [Postgres.isIdentStart, hstart', Bool.true_or])]
          rw [(takeWhile_eq (fun d hd => by
            rw [Postgres.isIdentChar, Postgres.isTagChar, hd, Bool.true_or, Bool.true_or])
            (hplain hstart')).1]
          exact h
        · rename_i hstart
          rw [if_neg, h]
          rw [Postgres.isIdentStart, Bool.or_eq_true, not_or]
          refine ⟨hstart, fun hlarge => ?_⟩
          exact absurd (val_lt_of_otherToken h) (UInt32.not_lt.mpr (of_decide_eq_true hlarge))

/-- **PostgreSQL finds the statements that the policy finds**, wherever the text is plain. -/
theorem sqlStatements_eq {source : String} (hplain : policyLexer.Along Plain source.toList)
    {statements : List (List Token)} (h : sqlStatements source = .ok statements) :
    Postgres.statements source = .ok statements := by
  refine Lexer.statements_eq (fun c cs piece rest hplain hcut => ?_) hplain h
  change policyCut c cs = _ at hcut
  rw [policyCut] at hcut
  rw [Plain] at hplain
  split at hcut
  · rename_i hspace
    rw [if_pos hspace] at hplain
    exact .inl ((if_pos hplain).trans hcut)
  · rename_i hspace
    have hspace' : ¬Postgres.isSpace c = true := fun h => hspace (isSpace_of_postgres h)
    rw [if_neg hspace] at hplain
    split at hcut
    · rename_i hcomment
      rw [if_pos hcomment] at hplain
      cases hcut
      have hfirst : postgresLexer.cut c cs =
          .ok (.blank, (c :: cs).dropWhile fun d => !Postgres.isNewline d) :=
        (if_neg hspace').trans (if_pos hcomment)
      refine .inr ⟨rfl, .drop hfirst ?_⟩
      have hsplit := takeWhile_append_dropWhile (p := fun d => d != '\n') (l := c :: cs)
      have hbody : ∀ d ∈ (c :: cs).takeWhile fun d => d != '\n', d ≠ '\n' := fun d hd => by
        simpa using mem_takeWhile_imp hd
      have htext : ((c :: cs).dropWhile fun d => d != '\n') = [] ∨
          ∃ rest, ((c :: cs).dropWhile fun d => d != '\n') = '\n' :: rest := by
        cases hdrop : (c :: cs).dropWhile fun d => d != '\n' with
        | nil => exact .inl rfl
        | cons d ds =>
          have hd := head?_dropWhile_not (fun d => d != '\n') (c :: cs)
          rw [hdrop] at hd
          refine .inr ⟨ds, ?_⟩
          simpa using hd
      have hskips := (skips_comment hbody htext).1 hplain
      rwa [hsplit] at hskips
    · rename_i hcomment
      rw [if_neg hcomment] at hplain
      split at hcut
      · rename_i hstop
        refine .inl ?_
        exact (if_neg hspace').trans ((if_neg hcomment).trans ((if_pos hstop).trans hcut))
      · rename_i hstop
        refine .inl ?_
        cases htoken : nextSqlToken c cs with
        | error e => rw [htoken] at hcut; cases hcut
        | ok cut =>
          rw [htoken] at hcut
          change Postgres.cut c cs = _
          rw [Postgres.cut, if_neg hspace', if_neg hcomment, if_neg hstop,
            token_of_nextSqlToken htoken hplain]
          exact hcut

end CrmYnov.MigrationPolicy
