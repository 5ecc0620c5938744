import Mathlib.Data.List.Basic

/-!
# Lexers

A *lexer* cuts a text from its front: at each place it drops something blank, ends a statement, or
takes a token. What it makes of a text is the list of its statements, each the list of its tokens;
a statement without tokens is none.

Two lexers are compared along the cuts of the first: `Lexer.statements_eq` says that they read a
text alike when, at each place where the first one cuts, the second one cuts the same piece, or
reaches the same place by dropping blanks.
-/

/-- What a lexer cuts off the front of a text. -/
inductive Cut (τ : Type*)
  | blank
  | stop
  | token (t : τ)

/-- A lexer: what it cuts off a text that begins with a character. -/
structure Lexer (τ ε : Type*) where
  cut : Char → List Char → Except ε (Cut τ × List Char)
  /-- A cut leaves less than the text. -/
  shrinks : ∀ c cs piece rest, cut c cs = .ok (piece, rest) → rest.length ≤ cs.length

namespace Lexer

open List

variable {τ ε : Type*} (L : Lexer τ ε)

/-- The statement that the tokens make. -/
def ended (tokens : List τ) : List (List τ) := if tokens.isEmpty then [] else [tokens]

/-- The statements of a text, after some tokens; each cut takes one unit of fuel. -/
def readFrom : ℕ → List Char → List τ → Except ε (List (List τ))
  | 0, _, tokens => .ok (ended tokens)
  | _ + 1, [], tokens => .ok (ended tokens)
  | n + 1, c :: cs, tokens =>
    match L.cut c cs with
    | .error e => .error e
    | .ok (.blank, rest) => readFrom n rest tokens
    | .ok (.stop, rest) => (readFrom n rest []).map (ended tokens ++ ·)
    | .ok (.token t, rest) => readFrom n rest (tokens ++ [t])

/-- The statements of a text, after some tokens. -/
def read (text : List Char) (tokens : List τ) : Except ε (List (List τ)) :=
  L.readFrom text.length text tokens

/-- **The statements of a text.** -/
def statements (text : List Char) : Except ε (List (List τ)) := L.read text []

/-- The condition holds at each place where the text is cut. -/
def alongFrom (C : Char → List Char → Prop) : ℕ → List Char → Prop
  | 0, _ => True
  | _ + 1, [] => True
  | n + 1, c :: cs => C c cs ∧
    match L.cut c cs with
    | .error _ => True
    | .ok (_, rest) => alongFrom C n rest

/-- **The condition holds at each place where the lexer cuts the text.** -/
def Along (C : Char → List Char → Prop) (text : List Char) : Prop :=
  L.alongFrom C text.length text

instance decidableAlongFrom (C : Char → List Char → Prop) [∀ c cs, Decidable (C c cs)] :
    ∀ n text, Decidable (L.alongFrom C n text)
  | 0, _ => inferInstanceAs (Decidable True)
  | _ + 1, [] => inferInstanceAs (Decidable True)
  | n + 1, c :: cs =>
    have : Decidable (match L.cut c cs with
        | .error _ => True
        | .ok (_, rest) => L.alongFrom C n rest) :=
      match L.cut c cs with
      | .error _ => inferInstanceAs (Decidable True)
      | .ok (_, rest) => decidableAlongFrom C n rest
    inferInstanceAs (Decidable (_ ∧ _))

instance (C : Char → List Char → Prop) [∀ c cs, Decidable (C c cs)] (text : List Char) :
    Decidable (L.Along C text) := inferInstanceAs (Decidable (L.alongFrom C _ text))

/-- Blanks are dropped from one text until another one is reached. -/
inductive Skips : List Char → List Char → Prop
  | refl (text : List Char) : Skips text text
  | drop {c : Char} {cs mid rest : List Char} (h : L.cut c cs = .ok (.blank, mid))
      (hrest : Skips mid rest) : Skips (c :: cs) rest

variable {L} {L' : Lexer τ ε}

/-- More fuel than there are characters changes nothing. -/
theorem readFrom_of_le {n : ℕ} {text : List Char} (hn : text.length ≤ n) (tokens : List τ) :
    L.readFrom n text tokens = L.read text tokens := by
  -- both counts of fuel are followed at once, down to the end of the text
  have hall : ∀ n m text tokens, text.length ≤ n → text.length ≤ m →
      L.readFrom n text tokens = L.readFrom m text tokens := by
    intro n
    induction n with
    | zero =>
      intro m text tokens hn _
      obtain rfl := eq_nil_of_length_eq_zero (Nat.le_zero.mp hn)
      cases m <;> rfl
    | succ n ih =>
      intro m text tokens hn hm
      cases text with
      | nil => cases m <;> rfl
      | cons c cs =>
        obtain ⟨m, rfl⟩ : ∃ k, m = k + 1 := ⟨m - 1, by simp only [length_cons] at hm; omega⟩
        simp only [length_cons] at hn hm
        simp only [readFrom]
        split
        · rfl
        · rename_i rest h
          have hle := L.shrinks _ _ _ _ h
          exact ih m rest tokens (by omega) (by omega)
        · rename_i rest h
          have hle := L.shrinks _ _ _ _ h
          rw [ih m rest [] (by omega) (by omega)]
        · rename_i t rest h
          have hle := L.shrinks _ _ _ _ h
          exact ih m rest _ (by omega) (by omega)
  exact hall n text.length text tokens hn (Nat.le_refl _)

/-- **The text is read from one cut to the next.** -/
theorem read_cons (c : Char) (cs : List Char) (tokens : List τ) :
    L.read (c :: cs) tokens = match L.cut c cs with
      | .error e => .error e
      | .ok (.blank, rest) => L.read rest tokens
      | .ok (.stop, rest) => (L.read rest []).map (ended tokens ++ ·)
      | .ok (.token t, rest) => L.read rest (tokens ++ [t]) := by
  rw [read, length_cons, readFrom]
  split
  · rfl
  · rename_i rest h
    exact readFrom_of_le (L.shrinks _ _ _ _ h) tokens
  · rename_i rest h
    rw [readFrom_of_le (L.shrinks _ _ _ _ h)]
  · rename_i t rest h
    exact readFrom_of_le (L.shrinks _ _ _ _ h) _

/-- Blanks that are dropped do not count. -/
theorem Skips.read {text rest : List Char} (h : L.Skips text rest) (tokens : List τ) :
    L.read text tokens = L.read rest tokens := by
  induction h with
  | refl _ => rfl
  | drop hcut _ ih => rw [read_cons, hcut]; exact ih

/-- A condition on all the cuts is one on the first, and on those that follow. -/
theorem Along.cons {C : Char → List Char → Prop} {c : Char} {cs : List Char}
    (h : L.Along C (c :: cs)) : C c cs ∧
      ∀ piece rest, L.cut c cs = .ok (piece, rest) → L.Along C rest := by
  have hall : ∀ n m text, text.length ≤ n → text.length ≤ m → L.alongFrom C n text →
      L.alongFrom C m text := by
    intro n
    induction n with
    | zero =>
      intro m text hn _ _
      obtain rfl := eq_nil_of_length_eq_zero (Nat.le_zero.mp hn)
      cases m <;> trivial
    | succ n ih =>
      intro m text hn hm h
      cases text with
      | nil => cases m <;> trivial
      | cons c cs =>
        obtain ⟨m, rfl⟩ : ∃ k, m = k + 1 := ⟨m - 1, by simp only [length_cons] at hm; omega⟩
        simp only [length_cons] at hn hm
        refine ⟨h.1, ?_⟩
        have hrest := h.2
        cases hcut : L.cut c cs with
        | error e => trivial
        | ok cut =>
          obtain ⟨piece, rest⟩ := cut
          have hle := L.shrinks _ _ _ _ hcut
          rw [hcut] at hrest
          exact ih m rest (by omega) (by omega) hrest
  refine ⟨h.1, fun piece rest hcut => ?_⟩
  have hrest := h.2
  rw [hcut] at hrest
  exact hall _ _ rest (L.shrinks _ _ _ _ hcut) (Nat.le_refl _) hrest

/-- **Two lexers read a text alike** when, at each place where the first one cuts it, the second one
cuts the same piece or drops blanks to the same place. -/
theorem statements_eq {C : Char → List Char → Prop}
    (h : ∀ c cs piece rest, C c cs → L.cut c cs = .ok (piece, rest) →
      L'.cut c cs = .ok (piece, rest) ∨ piece = .blank ∧ L'.Skips (c :: cs) rest)
    {text : List Char} (hC : L.Along C text) {statements : List (List τ)}
    (hread : L.statements text = .ok statements) : L'.statements text = .ok statements := by
  have hall : ∀ n text tokens statements, text.length ≤ n → L.Along C text →
      L.read text tokens = .ok statements → L'.read text tokens = .ok statements := by
    intro n
    induction n with
    | zero =>
      intro text tokens statements hn _ hread
      obtain rfl := eq_nil_of_length_eq_zero (Nat.le_zero.mp hn)
      exact hread
    | succ n ih =>
      intro text tokens statements hn hC hread
      cases text with
      | nil => exact hread
      | cons c cs =>
        obtain ⟨hhere, hthere⟩ := hC.cons
        rw [read_cons] at hread
        cases hcut : L.cut c cs with
        | error e => rw [hcut] at hread; cases hread
        | ok cut =>
          obtain ⟨piece, rest⟩ := cut
          have hle := L.shrinks _ _ _ _ hcut
          have hrest := hthere piece rest hcut
          have hn' : rest.length ≤ n := by
            simp only [length_cons] at hn
            omega
          rw [hcut] at hread
          rcases h c cs piece rest hhere hcut with hsame | ⟨rfl, hskips⟩
          · rw [read_cons, hsame]
            cases piece with
            | blank => exact ih rest tokens _ hn' hrest hread
            | token t => exact ih rest _ _ hn' hrest hread
            | stop =>
              simp only at hread ⊢
              cases hnext : L.read rest [] with
              | error e => rw [hnext] at hread; cases hread
              | ok following =>
                rw [hnext] at hread
                rw [ih rest [] following hn' hrest hnext]
                exact hread
          · rw [hskips.read]
            exact ih rest tokens _ hn' hrest hread
  exact hall _ text [] statements (Nat.le_refl _) hC hread

end Lexer
