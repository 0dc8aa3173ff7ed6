import Mathlib.Data.List.Basic

/-!
# How a shell splits a command string into words

A tokenizer for `sh -c` strings after the POSIX token rules: blanks end a word, the operator
characters stand for themselves, quotes and backslashes protect characters, and `$`, a backquote, a
pattern character or a leading tilde starts an expansion. A word is kept as the list of its parts,
so that a token records which of its characters were taken literally.

A command string is usually a template with arguments pasted in. `Lexer.protect` is what the author
of a template has in mind: the argument is one word, whatever its characters. `lex_arg_iff` says
when the shell agrees: exactly when the argument is `Inert`.
-/

namespace Shell

open List Bool

/-- One character of a word. -/
inductive Part where
  /-- an unquoted character that stands for itself -/
  | lit (c : Char)
  /-- a quoting character, or a character it protects -/
  | quote (c : Char)
  /-- a character that starts an expansion -/
  | expand (c : Char)
deriving DecidableEq

/-- A token of a command string. -/
inductive Token where
  | word (parts : List Part)
  | op (c : Char)
  /-- the string ends inside quotes -/
  | unterminated
deriving DecidableEq

/-- Where the tokenizer is with respect to quoting. -/
inductive Mode where
  | plain
  | escape
  | single
  | double
  | doubleEscape
  | comment
  /-- a NUL character ends the argument of `execve` -/
  | ended
deriving DecidableEq

def isBlank (c : Char) : Bool := c == ' ' || c == '\t'

def isOperator (c : Char) : Bool :=
  c == '\n' || c == '|' || c == '&' || c == ';' || c == '<' || c == '>' || c == '(' || c == ')'

def isExpansion (c : Char) : Bool := c == '$' || c.toNat == 96 || c == '*' || c == '?' || c == '['

def isQuote (c : Char) : Bool := c == '\\' || c.toNat == 39 || c == '"'

/-- A character that is literal wherever it stands in a word, except that a tilde or a number sign
means something at the start. -/
def ordinary (c : Char) : Bool :=
  !(c.toNat == 0 || isBlank c || isOperator c || isExpansion c || isQuote c)

variable {c : Char} {l before after : List Char} {s : Lexer} {t : List Piece} {toks : List Token}

/-- The characters with a meaning are ASCII, and no letters or digits. -/
theorem ordinary_eq_false (h : ordinary c = false) : c.toNat < 128 ∧ c.isAlphanum = false := by
  have hnat : ∀ n, c.toNat = n → c = Char.ofNat n := by
    rintro _ rfl
    exact (Char.ofNat_toNat c).symm
  simp only [ordinary, isBlank, isOperator, isExpansion, isQuote, not_eq_false',
    or_eq_true, beq_iff_eq] at h
  rcases h with (((h | rfl | rfl) | hop) | hexp) | hquote
  · rw [hnat 0 h]
    decide
  · decide
  · decide
  · rcases hop with ((((((rfl | rfl) | rfl) | rfl) | rfl) | rfl) | rfl) | rfl <;> decide
  · rcases hexp with (((rfl | h) | rfl) | rfl) | rfl
    · decide
    · rw [hnat 96 h]
      decide
    all_goals decide
  · rcases hquote with (rfl | h) | rfl
    · decide
    · rw [hnat 39 h]
      decide
    · decide

/-- The tokens so far, the word that is being read, and the mode. -/
structure Lexer where
  tokens : List Token
  word : Option (List Part)
  mode : Mode
deriving DecidableEq

namespace Lexer

def init : Lexer := ⟨[], none, .plain⟩

variable (s : Lexer)

/-- Add a part to the word that is being read. -/
def push (p : Part) : Lexer := { s with word := some (s.word.getD [] ++ [p]) }

/-- End the word that is being read. -/
def flush : Lexer :=
  match s.word with
  | none => s
  | some w => { s with tokens := s.tokens ++ [.word w], word := none }

/-- The tokens of a string that ends here. -/
def finish : List Token :=
  match s.mode with
  | .plain | .comment | .ended => s.flush.tokens
  | _ => s.tokens ++ [.unterminated]

/-- One character outside quotes and comments. -/
def plainStep (c : Char) : Lexer :=
  if isBlank c then s.flush
  else if isOperator c then { s.flush with tokens := s.flush.tokens ++ [.op c] }
  else if c = '\\' then { s.push (.quote c) with mode := .escape }
  else if c = '"' then { s.push (.quote c) with mode := .double }
  else if isQuote c then { s.push (.quote c) with mode := .single }
  else if isExpansion c then s.push (.expand c)
  else if s.word = none ∧ c = '~' then s.push (.expand c)
  else if s.word = none ∧ c = '#' then { s with mode := .comment }
  else s.push (.lit c)

def step (c : Char) : Lexer :=
  if c.toNat = 0 then ⟨s.finish, none, .ended⟩ else
  match s.mode with
  | .plain => s.plainStep c
  | .escape => { s.push (.quote c) with mode := .plain }
  | .single =>
      if c.toNat = 39 then { s.push (.quote c) with mode := .plain } else s.push (.quote c)
  | .double =>
      if c = '"' then { s.push (.quote c) with mode := .plain }
      else if c = '\\' then { s.push (.quote c) with mode := .doubleEscape }
      else if c = '$' ∨ c.toNat = 96 then s.push (.expand c)
      else s.push (.quote c)
  | .doubleEscape => { s.push (.quote c) with mode := .double }
  | .comment =>
      if c = '\n' then { s with tokens := s.tokens ++ [.op c], mode := .plain } else s
  | .ended => s

/-- Read characters one after another. -/
def run (l : List Char) : Lexer := l.foldl step s

/-- Take an argument as part of the word that is being read, whatever its characters. -/
def protect (arg : List Char) : Lexer := { s with word := some (s.word.getD [] ++ arg.map .lit) }

theorem run_append (l m : List Char) : s.run (l ++ m) = (s.run l).run m := foldl_append ..

end Lexer

/-- The tokens of a command string. -/
def lex (l : List Char) : List Token := (Lexer.init.run l).finish

/-- The argument is one word that the shell takes literally. -/
def Inert (arg : List Char) : Prop :=
  arg ≠ [] ∧ (∀ c ∈ arg, ordinary c = true) ∧ arg.head? ≠ some '~' ∧ arg.head? ≠ some '#'

instance (arg : List Char) : Decidable (Inert arg) :=
  decidable_of_iff (arg ≠ [] ∧ arg.all ordinary = true ∧ arg.head? ≠ some '~' ∧
    arg.head? ≠ some '#') (by rw [all_eq_true, Inert])

/-! ## What the tokenizer can put into a word -/

/-- A word as the tokenizer builds it: not empty, literal characters are ordinary ones, and a
literal tilde or number sign is never the first. -/
structure WordOk (w : List Part) : Prop where
  ne_nil : w ≠ []
  lit : ∀ c, Part.lit c ∈ w → ordinary c = true
  tilde : w.head? ≠ some (.lit '~')
  hash : w.head? ≠ some (.lit '#')

/-- Every word of the lexer is one it can build. -/
structure LexerOk (s : Lexer) : Prop where
  tokens : ∀ w, Token.word w ∈ s.tokens → WordOk w
  word : ∀ w, s.word = some w → WordOk w

namespace LexerOk

variable {s : Lexer}

section

variable (h : LexerOk s)
include h

theorem mode (m : Mode) : LexerOk { s with mode := m } := ⟨h.tokens, h.word⟩

theorem op (c : Char) : LexerOk { s with tokens := s.tokens ++ [.op c] } := by
  refine ⟨fun w hw => h.tokens w ?_, h.word⟩
  simpa using hw

theorem flush : LexerOk s.flush := by
  unfold Lexer.flush
  split
  · exact h
  · rename_i w hw
    refine ⟨fun w' hw' => ?_, fun w' hw' => by cases hw'⟩
    rcases mem_append.mp hw' with hw' | hw'
    · exact h.tokens w' hw'
    · have : w' = w := by simpa using hw'
      exact this ▸ h.word w hw

/-- A part can be added when it is not a literal character, or when it is an ordinary one that does
not start the word as a tilde or a number sign. -/
theorem push {p : Part} (hlit : ∀ c, p = .lit c → ordinary c = true)
    (hfirst : s.word = none → p ≠ .lit '~' ∧ p ≠ .lit '#') : LexerOk (s.push p) := by
  refine ⟨h.tokens, fun w hw => ?_⟩
  obtain rfl : s.word.getD [] ++ [p] = w := by simpa [Lexer.push] using hw
  cases hcur : s.word with
  | none =>
    obtain ⟨ht, hh⟩ := hfirst hcur
    exact ⟨by simp, fun c hc => hlit c (by simpa [eq_comm] using hc), by simpa using ht,
      by simpa using hh⟩
  | some w =>
    have hw := h.word w hcur
    obtain ⟨a, w, rfl⟩ := exists_cons_of_ne_nil hw.ne_nil
    refine ⟨by simp, fun c hc => ?_, by simpa using hw.tilde, by simpa using hw.hash⟩
    rcases mem_append.mp hc with hc | hc
    · exact hw.lit c hc
    · exact hlit c (by simpa [eq_comm] using hc)

/-- Parts that are not literal can always be added. -/
theorem push_quote (c : Char) : LexerOk (s.push (.quote c)) :=
  h.push (fun _ hc => by cases hc) fun _ => ⟨by simp, by simp⟩

theorem push_expand (c : Char) : LexerOk (s.push (.expand c)) :=
  h.push (fun _ hc => by cases hc) fun _ => ⟨by simp, by simp⟩

/-- The words of a finished string. -/
theorem finish {w : List Part} (hw : Token.word w ∈ s.finish) : WordOk w := by
  unfold Lexer.finish at hw
  split at hw
  · exact h.flush.tokens w hw
  · exact h.flush.tokens w hw
  · exact h.flush.tokens w hw
  · exact h.tokens w (by simpa using hw)

theorem plainStep {c : Char} (h0 : c.toNat ≠ 0) : LexerOk (s.plainStep c) := by
  unfold Lexer.plainStep
  split_ifs with hb ho hbs hdq hq he ht hh
  · exact h.flush
  · exact h.flush.op c
  · exact (h.push_quote c).mode _
  · exact (h.push_quote c).mode _
  · exact (h.push_quote c).mode _
  · exact h.push_expand c
  · exact h.push_expand c
  · exact h.mode _
  · refine h.push ?_ fun hn => ⟨?_, ?_⟩
    · rintro _ ⟨⟩
      simp [ordinary, h0, hb, ho, hq, he]
    · rintro ⟨⟩
      exact ht ⟨hn, rfl⟩
    · rintro ⟨⟩
      exact hh ⟨hn, rfl⟩

theorem step (c : Char) : LexerOk (s.step c) := by
  unfold Lexer.step
  by_cases h0 : c.toNat = 0
  · rw [if_pos h0]
    exact ⟨fun _ hw => h.finish hw, fun _ hw => by cases hw⟩
  rw [if_neg h0]
  split
  · exact h.plainStep h0
  · exact (h.push_quote c).mode _
  · split_ifs
    · exact (h.push_quote c).mode _
    · exact h.push_quote c
  · split_ifs
    · exact (h.push_quote c).mode _
    · exact (h.push_quote c).mode _
    · exact h.push_expand c
    · exact h.push_quote c
  · exact (h.push_quote c).mode _
  · split_ifs
    · exact (h.op c).mode _
    · exact h
  · exact h

theorem run (l : List Char) : LexerOk (s.run l) := by
  induction l generalizing s with
  | nil => exact h
  | cons c l ih => exact ih (h.step c)

end

theorem init : LexerOk Lexer.init := ⟨fun _ h => (nomatch h), fun _ h => by simp [Lexer.init] at h⟩

end LexerOk

/-- Every word among the tokens of a string is one the tokenizer can build. -/
theorem wordOk_of_mem_lex {w : List Part} (h : Token.word w ∈ lex l) : WordOk w :=
  (LexerOk.init.run l).finish h

/-! ## Pasting an argument into a template -/

/-- Reading an ordinary character inside a word, or one that may start a word. -/
theorem step_ordinary (hm : s.mode = .plain) (hc : ordinary c = true)
    (ht : s.word = none → c ≠ '~') (hh : s.word = none → c ≠ '#') : s.step c = s.push (.lit c) := by
  simp only [ordinary, not_eq_true', or_eq_false_iff, beq_eq_false_iff_ne] at hc
  obtain ⟨⟨⟨⟨h0, hb⟩, ho⟩, he⟩, hq⟩ := hc
  have hbs : c ≠ '\\' := by rintro rfl; cases hq
  have hdq : c ≠ '"' := by rintro rfl; cases hq
  unfold Lexer.step
  rw [if_neg h0, hm]
  unfold Lexer.plainStep
  rw [if_neg (by simp [hb]), if_neg (by simp [ho]), if_neg hbs, if_neg hdq,
    if_neg (by simp [hq]), if_neg (by simp [he]), if_neg fun h => ht h.1 h.2,
    if_neg fun h => hh h.1 h.2]

theorem step_blank (hm : s.mode = .plain) (hc : isBlank c = true) : s.step c = s.flush := by
  have h0 : c.toNat ≠ 0 := by
    simp only [isBlank, or_eq_true, beq_iff_eq] at hc
    rcases hc with rfl | rfl <;> decide
  unfold Lexer.step
  rw [if_neg h0, hm]
  rw [Lexer.plainStep, if_pos hc]

/-- Inside a word, ordinary characters are read literally. -/
theorem run_ordinary (hl : ∀ c ∈ l, ordinary c = true) (toks : List Token) (w : List Part) :
    Lexer.run ⟨toks, some w, .plain⟩ l = ⟨toks, some (w ++ l.map .lit), .plain⟩ := by
  induction l generalizing w with
  | nil => simp [Lexer.run]
  | cons c l ih =>
    have hstep : Lexer.step ⟨toks, some w, .plain⟩ c = ⟨toks, some (w ++ [.lit c]), .plain⟩ :=
      step_ordinary rfl (hl c mem_cons_self) (by simp) (by simp)
    show Lexer.run (Lexer.step _ c) l = _
    rw [hstep, ih fun d hd => hl d (mem_cons_of_mem _ hd)]
    simp

/-- Between words, an inert argument is read as the one word it is meant to be. -/
theorem run_inert {arg : List Char} (harg : Inert arg) (toks : List Token) :
    Lexer.run ⟨toks, none, .plain⟩ arg = Lexer.protect ⟨toks, none, .plain⟩ arg := by
  obtain ⟨hne, hord, ht, hh⟩ := harg
  obtain ⟨c, l, rfl⟩ := exists_cons_of_ne_nil hne
  have hstep : Lexer.step ⟨toks, none, .plain⟩ c = ⟨toks, some [.lit c], .plain⟩ :=
    step_ordinary rfl (hord c mem_cons_self)
      (fun _ h => ht (by simp [h])) (fun _ h => hh (by simp [h]))
  show Lexer.run (Lexer.step _ c) l = _
  rw [hstep, run_ordinary fun d hd => hord d (mem_cons_of_mem _ hd)]
  simp [Lexer.protect]

/-- The tokens of a template with one argument, read as its author means it. -/
def lexProtected (before arg after : List Char) : List Token :=
  (((Lexer.init.run before).protect arg).run after).finish

/-- Tokens are only ever added. -/
theorem tokens_prefix_run (s : Lexer) (l : List Char) : s.tokens <+: (s.run l).tokens := by
  have hflush : ∀ s : Lexer, s.tokens <+: s.flush.tokens := by
    intro s
    unfold Lexer.flush
    split
    · exact prefix_rfl
    · exact prefix_append ..
  have hfinish : ∀ s : Lexer, s.tokens <+: s.finish := by
    intro s
    unfold Lexer.finish
    split
    · exact hflush s
    · exact hflush s
    · exact hflush s
    · exact prefix_append ..
  have hplain : ∀ (s : Lexer) c, s.tokens <+: (s.plainStep c).tokens := by
    intro s c
    unfold Lexer.plainStep
    split_ifs
    · exact hflush s
    · exact (hflush s).trans (prefix_append ..)
    all_goals exact prefix_rfl
  have hstep : ∀ (s : Lexer) c, s.tokens <+: (s.step c).tokens := by
    intro s c
    unfold Lexer.step
    by_cases h0 : c.toNat = 0
    · rw [if_pos h0]
      exact hfinish s
    rw [if_neg h0]
    split
    · exact hplain s c
    · exact prefix_rfl
    · split_ifs <;> exact prefix_rfl
    · split_ifs <;> exact prefix_rfl
    · exact prefix_rfl
    · split_ifs
      · exact prefix_append ..
      · exact prefix_rfl
    · exact prefix_rfl
  induction l generalizing s with
  | nil => exact prefix_rfl
  | cons c l ih => exact (hstep s c).trans (ih _)

theorem mem_finish_of_mem_tokens {t : Token} (h : t ∈ s.tokens) : t ∈ s.finish := by
  have hflush : t ∈ s.flush.tokens := by
    unfold Lexer.flush
    split
    · exact h
    · exact mem_append_left _ h
  unfold Lexer.finish
  split
  · exact hflush
  · exact hflush
  · exact hflush
  · exact mem_append_left _ h

/-- The argument of a template is one of its words, if a blank or the end follows it. -/
theorem word_mem_lexProtected (arg : List Char)
    (hbefore : Lexer.init.run before = ⟨toks, none, .plain⟩) (hafter : after.head?.all isBlank) :
    Token.word (arg.map .lit) ∈ lexProtected before arg after := by
  simp only [lexProtected, hbefore, Lexer.protect, Option.getD_none, nil_append]
  cases after with
  | nil => simp [Lexer.run, Lexer.finish, Lexer.flush]
  | cons c l =>
    have hc : isBlank c = true := by simpa using hafter
    show _ ∈ (Lexer.run (Lexer.step _ c) l).finish
    rw [step_blank rfl hc]
    exact mem_finish_of_mem_tokens ((tokens_prefix_run _ l).subset mem_concat_self)

/-- The shell reads a template as it is meant exactly when its argument is inert. -/
theorem lex_arg_iff (arg : List Char) (hbefore : Lexer.init.run before = ⟨toks, none, .plain⟩)
    (hafter : after.head?.all isBlank) :
    lex (before ++ arg ++ after) = lexProtected before arg after ↔ Inert arg := by
  constructor
  · intro h
    have hw := wordOk_of_mem_lex (h ▸ word_mem_lexProtected arg hbefore hafter)
    refine ⟨fun hn => hw.ne_nil (by simp [hn]), fun c hc => hw.lit c ?_, ?_, ?_⟩
    · exact mem_map_of_mem hc
    · intro ht
      exact hw.tilde (by simp [ht])
    · intro hh
      exact hw.hash (by simp [hh])
  · intro harg
    simp only [lex, Lexer.run_append, hbefore, lexProtected]
    rw [run_inert harg]

/-- A character that neither quotes, nor expands, nor ends a command, wherever it stands. -/
def isPlain (c : Char) : Bool := isBlank c || ordinary c && c != '~' && c != '#'

/-- Plain text leaves the tokenizer outside quotes and comments. -/
theorem run_plain (hl : l.all isPlain = true) (hm : s.mode = .plain) : (s.run l).mode = .plain := by
  induction l generalizing s with
  | nil => exact hm
  | cons c l ih =>
    rw [all_cons, and_eq_true] at hl
    refine ih hl.2 (s := s.step c) ?_
    rcases or_eq_true_iff.mp hl.1 with hb | ho
    · rw [step_blank hm hb]
      cases hw : s.word <;> simp [Lexer.flush, hw, hm]
    · simp only [and_eq_true, bne_iff_ne] at ho
      rw [step_ordinary hm ho.1.1 (fun _ => ho.1.2) fun _ => ho.2]
      exact hm

/-- After plain text and a blank, the next character starts a word. -/
theorem run_plain_blank (hl : l.all isPlain = true) :
    ∃ toks, Lexer.init.run (l ++ [' ']) = ⟨toks, none, .plain⟩ := by
  have hm := run_plain hl (s := Lexer.init) rfl
  rw [Lexer.run_append]
  generalize Lexer.init.run l = s at hm
  have hlast : s.run [' '] = s.flush := step_blank hm (c := ' ') rfl
  rw [hlast]
  obtain ⟨toks, word, mode⟩ := s
  obtain rfl : mode = .plain := hm
  cases word <;> exact ⟨_, rfl⟩

/-! ## Templates -/

/-- A piece of a command string: text of the program, or an argument pasted in. -/
inductive Piece where
  | fixed (s : String)
  | arg (s : String)

/-- The characters of a command string. -/
def Piece.chars : Piece → List Char
  | .fixed s => s.toList
  | .arg s => s.toList

/-- Read a piece as its author means it. -/
def Lexer.read (s : Lexer) : Piece → Lexer
  | .fixed x => s.run x.toList
  | .arg x => s.protect x.toList

/-- The shell reads the command string as its author means it: every argument is one literal word,
and nothing else changes. -/
def ReadsAsTemplate (t : List Piece) : Prop :=
  lex (t.flatMap Piece.chars) = (t.foldl Lexer.read Lexer.init).finish

instance (t : List Piece) : Decidable (ReadsAsTemplate t) := inferInstanceAs (Decidable (_ = _))

/-- The text of the program, run by run. -/
theorem foldl_read_fixed (s : Lexer) (l : List String) :
    (l.map Piece.fixed).foldl Lexer.read s = s.run ((l.map Piece.fixed).flatMap Piece.chars) := by
  induction l generalizing s with
  | nil => rfl
  | cons x l ih =>
    simp only [map_cons, foldl_cons, flatMap_cons, Lexer.run_append]
    exact ih _

/-- A command string without arguments is read as it is. -/
theorem readsAsTemplate_fixed (l : List String) : ReadsAsTemplate (l.map Piece.fixed) := by
  rw [ReadsAsTemplate, foldl_read_fixed, lex]

def Piece.isFixed : Piece → Bool
  | .fixed _ => true
  | .arg _ => false

theorem exists_map_fixed (h : ∀ p ∈ t, p.isFixed = true) :
    ∃ l : List String, t = l.map Piece.fixed := by
  induction t with
  | nil => exact ⟨[], rfl⟩
  | cons p t ih =>
    obtain ⟨l, rfl⟩ := ih fun p' hp' => h p' (mem_cons_of_mem _ hp')
    cases p with
    | fixed s => exact ⟨s :: l, rfl⟩
    | arg s => cases h _ mem_cons_self

theorem readsAsTemplate_of_isFixed (h : ∀ p ∈ t, p.isFixed = true) : ReadsAsTemplate t := by
  obtain ⟨l, rfl⟩ := exists_map_fixed h
  exact readsAsTemplate_fixed l

/-- Pieces of the program that are joined by pieces of it. -/
theorem isFixed_intercalate {sep : List Piece} {l : List (List Piece)}
    (hsep : ∀ p ∈ sep, p.isFixed = true) (hl : ∀ t ∈ l, ∀ p ∈ t, p.isFixed = true) :
    ∀ p ∈ sep.intercalate l, p.isFixed = true := by
  induction l with
  | nil => exact fun p hp => absurd hp not_mem_nil
  | cons t l ih =>
    rw [forall_mem_cons] at hl
    cases l with
    | nil => rw [intercalate_singleton]; exact hl.1
    | cons t' l =>
      rw [intercalate_cons_cons, forall_mem_append, forall_mem_append]
      exact ⟨⟨hl.1, hsep⟩, ih hl.2⟩

/-- A command string with one argument between blanks is read as it is meant exactly when the
argument is inert. -/
theorem readsAsTemplate_arg_iff {before after : List String} {toks : List Token} (x : String)
    (hbefore : Lexer.init.run ((before.map Piece.fixed).flatMap Piece.chars)
      = ⟨toks, none, .plain⟩)
    (hafter : ((after.map Piece.fixed).flatMap Piece.chars).head?.all isBlank) :
    ReadsAsTemplate (before.map Piece.fixed ++ .arg x :: after.map Piece.fixed)
      ↔ Inert x.toList := by
  rw [← lex_arg_iff x.toList hbefore hafter]
  simp only [ReadsAsTemplate, lexProtected, flatMap_append, flatMap_cons,
    foldl_append, foldl_cons, foldl_read_fixed, Lexer.read, Piece.chars,
    append_assoc]

end Shell
