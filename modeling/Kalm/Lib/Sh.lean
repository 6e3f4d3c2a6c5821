/-
  File:      Kalm/Lib/Sh.lean
  Subject:   READING A SCRIPT as the shell of POSIX does: its words by the rules of quoting, its operators, and the
             lists of pipelines that are made of them. Nothing here knows what a command does.

  * `Piece`, `Word`, `Token` -- a byte of a word is quoted or not;
  * `step`, `scan`, `lex` -- one byte after the other; what is expanded (`$`, a backquote) is not read;
  * `plain_of_lex` -- a byte that stands unquoted in a word has no meaning of its own;
  * `scan_plain`, `scan_double` -- the bytes that are copied, without quotes and within double quotes;
  * `Simple`, `parse`, `read` -- pipelines joined by `&&`; everything else is not read;
  * `pipe`, `run` -- the pipelines are run for what their commands do, up to the first that fails.
-/
import Mathlib.Data.List.Basic

namespace Sh

/-! ## 1. Tokens -/

/-- A text. -/
abbrev Text := List UInt8

/-- A byte of a word. -/
structure Piece where
  byte : UInt8
  quoted : Bool
  deriving DecidableEq

/-- A word. -/
abbrev Word := List Piece

/-- Bytes without quotes. -/
def bare (s : Text) : Word := s.map fun b => ⟨b, false⟩

/-- Bytes within quotes. -/
def quoted (s : Text) : Word := s.map fun b => ⟨b, true⟩

/-- What a word says. -/
def Word.text (w : Word) : Text := w.map Piece.byte

/-- What a script is made of; a number in front of a redirection is no word. -/
inductive Token where
  | word (w : Word)
  | number (w : Word)
  | op (o : Text)
  deriving DecidableEq

/-- Tab and space. -/
def isBlank (b : UInt8) : Bool := b = 9 || b = 32

/-- `<` and `>`. -/
def isRedirect (b : UInt8) : Bool := b = 60 || b = 62

/-- The bytes of the operators, and the end of a line: `&`, `(`, `)`, `;`, `<`, `>`, `|`. -/
def isOpByte (b : UInt8) : Bool :=
  b = 10 || b = 38 || b = 40 || b = 41 || b = 59 || isRedirect b || b = 124

/-- The operators of two and more bytes: `&&`, `||`, `;;`, `<<`, `>>`, `<&`, `>&`, `<>`, `>|`, `<<-`. -/
def longOps : List Text :=
  [[38, 38], [124, 124], [59, 59], [60, 60], [62, 62], [60, 38], [62, 38], [60, 62], [62, 124], [60, 60, 45]]

/-- What is not read: `$`, a backquote, and the byte that no argument can hold. -/
def isUnread (b : UInt8) : Bool := b = 36 || b = 96 || b = 0

/-- A byte that means itself in a word: no quote, no backslash, and nothing of the above. -/
def isPlain (b : UInt8) : Bool :=
  !(isBlank b || isOpByte b || isUnread b || b = 39 || b = 34 || b = 92)

/-- A byte that means itself within double quotes. -/
def isDoublePlain (b : UInt8) : Bool := !(isUnread b || b = 34 || b = 92)

/-! ## 2. One byte -/

/-- Where the reader is; of an escape outside of a word there is no word yet. -/
inductive Mode where
  | between
  | inWord (w : Word)
  | inOp (o : Text)
  | single (w : Word)
  | double (w : Word)
  | escape (w : Option Word)
  | doubleEscape (w : Word)
  | comment
  deriving DecidableEq

/-- The beginning of a token. -/
def start (b : UInt8) : Option Mode :=
  if isBlank b then some .between
  else if isOpByte b then some (.inOp [b])
  else if isUnread b then none
  else if b = 35 then some .comment
  else if b = 39 then some (.single [])
  else if b = 34 then some (.double [])
  else if b = 92 then some (.escape none)
  else some (.inWord [⟨b, false⟩])

/-- The word is a number of a redirection. -/
def isNumber (w : Word) (b : UInt8) : Bool :=
  isRedirect b && w ≠ [] && w.all fun p => !p.quoted && 48 ≤ p.byte && p.byte ≤ 57

/-- A byte that ends a word. -/
def endWord (w : Word) (b : UInt8) : Token := if isNumber w b then .number w else .word w

/-- One byte: the tokens that it completes, and where the reader is behind it. -/
def step : Mode → UInt8 → Option (List Token × Mode)
  | .between, b => (start b).map fun m => ([], m)
  | .inWord w, b =>
    if isBlank b || isOpByte b then (start b).map fun m => ([endWord w b], m)
    else if isUnread b then none
    else if b = 39 then some ([], .single w)
    else if b = 34 then some ([], .double w)
    else if b = 92 then some ([], .escape (some w))
    else some ([], .inWord (w ++ [⟨b, false⟩]))
  | .inOp o, b =>
    if o ++ [b] ∈ longOps then some ([], .inOp (o ++ [b]))
    else (start b).map fun m => ([.op o], m)
  | .single w, b =>
    if b = 39 then some ([], .inWord w)
    else if b = 0 then none
    else some ([], .single (w ++ [⟨b, true⟩]))
  | .double w, b =>
    if b = 34 then some ([], .inWord w)
    else if isUnread b then none
    else if b = 92 then some ([], .doubleEscape w)
    else some ([], .double (w ++ [⟨b, true⟩]))
  | .escape w, b =>
    if b = 0 then none
    -- the end of the line is taken out
    else if b = 10 then some ([], w.elim .between .inWord)
    else some ([], .inWord (w.getD [] ++ [⟨b, true⟩]))
  | .doubleEscape w, b =>
    if b = 0 then none
    else if b = 10 then some ([], .double w)
    else if b = 36 || b = 96 || b = 34 || b = 92 then some ([], .double (w ++ [⟨b, true⟩]))
    else some ([], .double (w ++ [⟨92, true⟩, ⟨b, true⟩]))
  | .comment, b =>
    if b = 0 then none
    else if b = 10 then some ([], .inOp [10])
    else some ([], .comment)

/-- The bytes of a text. -/
def scan : Mode → Text → Option (List Token × Mode)
  | m, [] => some ([], m)
  | m, b :: rest => (step m b).bind fun x => (scan x.2 rest).map fun y => (x.1 ++ y.1, y.2)

/-- The end of the script; quotes are closed there. -/
def finish : Mode → Option (List Token)
  | .between => some []
  | .inWord w => some [.word w]
  | .inOp o => some [.op o]
  | .comment => some []
  | _ => none

/-- **The tokens of a script.** -/
def lex (s : Text) : Option (List Token) :=
  (scan .between s).bind fun x => (finish x.2).map fun ts => x.1 ++ ts

theorem scan_append (m : Mode) (s t : Text) :
    scan m (s ++ t) = (scan m s).bind fun x => (scan x.2 t).map fun y => (x.1 ++ y.1, y.2) := by
  induction s generalizing m with
  | nil =>
      rw [List.nil_append, scan, Option.bind_some]
      cases scan m t <;> rfl
  | cons b s ih =>
      rw [List.cons_append, scan, scan]
      cases step m b with
      | none => rfl
      | some x =>
          rw [Option.bind_some, Option.bind_some, ih]
          cases scan x.2 s with
          | none => rfl
          | some y =>
              simp only [Option.bind_some, Option.map_some]
              cases scan y.2 t with
              | none => rfl
              | some z => simp [List.append_assoc]

/-- One text behind the other. -/
theorem scan_trans {m m' m'' : Mode} {s t : Text} {ts us : List Token} (hs : scan m s = some (ts, m'))
    (ht : scan m' t = some (us, m'')) : scan m (s ++ t) = some (ts ++ us, m'') := by
  rw [scan_append, hs, Option.bind_some, ht]
  rfl

/-- A script that ends in a word. -/
theorem lex_of_scan {s : Text} {ts : List Token} {w : Word} (h : scan .between s = some (ts, .inWord w)) :
    lex s = some (ts ++ [.word w]) := by
  rw [lex, h]
  rfl

/-! ## 3. What stands unquoted -/

/-- The unquoted bytes of a word mean themselves. -/
def Word.Plain (w : Word) : Prop := ∀ p ∈ w, p.quoted = false → isPlain p.byte = true

/-- Those of a token. -/
def Token.Plain : Token → Prop
  | .word w => w.Plain
  | .number w => w.Plain
  | .op _ => True

/-- Those of the word that is read. -/
def Mode.Plain : Mode → Prop
  | .inWord w => w.Plain
  | .single w => w.Plain
  | .double w => w.Plain
  | .escape w => ∀ v, w = some v → v.Plain
  | .doubleEscape w => w.Plain
  | _ => True

variable {w : Word} {b : UInt8} {m m' : Mode} {ts : List Token} {s : Text}

theorem plain_nil : Word.Plain [] := fun _ h => absurd h List.not_mem_nil

theorem plain_append {v : Word} (hw : w.Plain) (hv : v.Plain) : Word.Plain (w ++ v) := fun p hp =>
  (List.mem_append.mp hp).elim (hw p) (hv p)

theorem plain_quoted (s : Text) : (quoted s).Plain := by
  intro p hp
  obtain ⟨b, _, rfl⟩ := List.mem_map.mp hp
  exact fun h => by cases h

/-- A word of bare bytes. -/
theorem plain_bare_iff : (bare s).Plain ↔ ∀ b ∈ s, isPlain b = true := by
  simp [Word.Plain, bare]

/-- What is left for a bare byte. -/
theorem isPlain_of_not (hend : ¬ (isBlank b || isOpByte b) = true) (hunread : ¬ isUnread b = true) (hsingle : b ≠ 39)
    (hdouble : b ≠ 34) (hescape : b ≠ 92) : isPlain b = true := by
  simp only [Bool.or_eq_true, not_or, Bool.not_eq_true] at hend
  simp [isPlain, hend.1, hend.2, hunread, hsingle, hdouble, hescape]

theorem plain_start (h : start b = some m) : m.Plain := by
  unfold start at h
  split at h
  · cases h
    trivial
  rename_i hblank
  split at h
  · cases h
    trivial
  rename_i hop
  split at h
  · cases h
  rename_i hunread
  split at h
  · cases h
    trivial
  split at h
  · cases h
    exact plain_nil
  rename_i hsingle
  split at h
  · cases h
    exact plain_nil
  rename_i hdouble
  split at h
  · cases h
    exact fun v hv => by cases hv
  rename_i hescape
  cases h
  have hend : ¬ (isBlank b || isOpByte b) = true := by
    rw [Bool.or_eq_true]
    exact fun h => h.elim hblank hop
  intro p hp _
  rw [List.mem_singleton.mp hp]
  exact isPlain_of_not hend hunread hsingle hdouble hescape

theorem plain_start_map {t : List Token} (h : (start b).map (fun m => (t, m)) = some (ts, m')) :
    ts = t ∧ m'.Plain := by
  obtain ⟨m, hm, hpair⟩ := Option.map_eq_some_iff.mp h
  cases hpair
  exact ⟨rfl, plain_start hm⟩

/-- One quoted byte more. -/
theorem plain_quote (hw : w.Plain) (s : Text) : Word.Plain (w ++ quoted s) := plain_append hw (plain_quoted s)

/-- **No byte puts one with a meaning into a word**, unless it is quoted. -/
theorem plain_step (hm : m.Plain) (h : step m b = some (ts, m')) : (∀ t ∈ ts, t.Plain) ∧ m'.Plain := by
  have hnone : ∀ t ∈ ([] : List Token), t.Plain := fun t ht => absurd ht List.not_mem_nil
  cases m with
  | between =>
      obtain ⟨rfl, hm'⟩ := plain_start_map h
      exact ⟨hnone, hm'⟩
  | inWord w =>
      rw [step] at h
      split at h
      · obtain ⟨rfl, hm'⟩ := plain_start_map h
        refine ⟨fun t ht => ?_, hm'⟩
        rw [List.mem_singleton.mp ht, endWord]
        split <;> exact hm
      rename_i hend
      split at h
      · cases h
      rename_i hunread
      split at h
      · cases h
        exact ⟨hnone, hm⟩
      rename_i hsingle
      split at h
      · cases h
        exact ⟨hnone, hm⟩
      rename_i hdouble
      split at h
      · cases h
        exact ⟨hnone, fun v hv => by cases hv; exact hm⟩
      rename_i hescape
      cases h
      refine ⟨hnone, plain_append hm ?_⟩
      intro p hp _
      rw [List.mem_singleton.mp hp]
      exact isPlain_of_not hend hunread hsingle hdouble hescape
  | inOp o =>
      rw [step] at h
      split at h
      · cases h
        exact ⟨hnone, trivial⟩
      · obtain ⟨rfl, hm'⟩ := plain_start_map h
        refine ⟨fun t ht => ?_, hm'⟩
        rw [List.mem_singleton.mp ht]
        trivial
  | single w =>
      rw [step] at h
      split at h
      · cases h
        exact ⟨hnone, hm⟩
      split at h
      · cases h
      · cases h
        exact ⟨hnone, plain_quote hm [b]⟩
  | double w =>
      rw [step] at h
      split at h
      · cases h
        exact ⟨hnone, hm⟩
      split at h
      · cases h
      split at h
      · cases h
        exact ⟨hnone, hm⟩
      · cases h
        exact ⟨hnone, plain_quote hm [b]⟩
  | escape w =>
      rw [step] at h
      split at h
      · cases h
      split at h
      · cases h
        cases w with
        | none => exact ⟨hnone, trivial⟩
        | some v => exact ⟨hnone, hm v rfl⟩
      · cases h
        refine ⟨hnone, plain_quote ?_ [b]⟩
        cases w with
        | none => exact plain_nil
        | some v => exact hm v rfl
  | doubleEscape w =>
      rw [step] at h
      split at h
      · cases h
      split at h
      · cases h
        exact ⟨hnone, hm⟩
      split at h
      · cases h
        exact ⟨hnone, plain_quote hm [b]⟩
      · cases h
        exact ⟨hnone, plain_quote hm [92, b]⟩
  | comment =>
      rw [step] at h
      split at h
      · cases h
      split at h
      · cases h
        exact ⟨hnone, trivial⟩
      · cases h
        exact ⟨hnone, trivial⟩

theorem plain_scan (hm : m.Plain) (h : scan m s = some (ts, m')) : (∀ t ∈ ts, t.Plain) ∧ m'.Plain := by
  induction s generalizing m ts with
  | nil =>
      cases h
      exact ⟨fun t ht => absurd ht List.not_mem_nil, hm⟩
  | cons b s ih =>
      rw [scan] at h
      obtain ⟨x, hx, h⟩ := Option.bind_eq_some_iff.mp h
      obtain ⟨y, hy, hpair⟩ := Option.map_eq_some_iff.mp h
      obtain ⟨rfl, rfl⟩ := Prod.mk.inj hpair
      obtain ⟨hfirst, hmode⟩ := plain_step hm hx
      obtain ⟨hrest, hend⟩ := ih hmode hy
      exact ⟨fun t ht => (List.mem_append.mp ht).elim (hfirst t) (hrest t), hend⟩

/-- **A byte that stands unquoted in a word of a script means itself.** -/
theorem plain_of_lex (h : lex s = some ts) : ∀ t ∈ ts, t.Plain := by
  obtain ⟨x, hx, h⟩ := Option.bind_eq_some_iff.mp h
  obtain ⟨last, hlast, rfl⟩ := Option.map_eq_some_iff.mp h
  obtain ⟨hfirst, hmode⟩ := plain_scan (m := .between) trivial hx
  refine fun t ht => (List.mem_append.mp ht).elim (hfirst t) fun ht => ?_
  rw [finish.eq_def] at hlast
  split at hlast
  · cases hlast
    exact absurd ht List.not_mem_nil
  · rename_i w heq
    cases hlast
    rw [List.mem_singleton.mp ht]
    rwa [heq] at hmode
  · cases hlast
    rw [List.mem_singleton.mp ht]
    trivial
  · cases hlast
    exact absurd ht List.not_mem_nil
  · cases hlast

/-! ## 4. What is copied -/

theorem isPlain_eq_true : isPlain b = true ↔ isBlank b = false ∧ isOpByte b = false ∧ isUnread b = false ∧ b ≠ 39 ∧
    b ≠ 34 ∧ b ≠ 92 := by
  simp [isPlain, and_assoc]

/-- **Bytes that mean themselves are copied.** -/
theorem scan_plain (w : Word) (h : ∀ b ∈ s, isPlain b = true) :
    scan (.inWord w) s = some ([], .inWord (w ++ bare s)) := by
  induction s generalizing w with
  | nil => simp [scan, bare]
  | cons b s ih =>
      obtain ⟨hblank, hop, hunread, hsingle, hdouble, hescape⟩ := isPlain_eq_true.mp (h b List.mem_cons_self)
      have hstep : step (.inWord w) b = some ([], .inWord (w ++ [⟨b, false⟩])) := by
        simp [step, hblank, hop, hunread, hsingle, hdouble, hescape]
      rw [scan, hstep, Option.bind_some, ih _ fun c hc => h c (List.mem_cons_of_mem b hc)]
      simp [bare]

/-- **Within double quotes** as well. -/
theorem scan_double (w : Word) (h : ∀ b ∈ s, isDoublePlain b = true) :
    scan (.double w) s = some ([], .double (w ++ quoted s)) := by
  induction s generalizing w with
  | nil => simp [scan, quoted]
  | cons b s ih =>
      have hb := h b List.mem_cons_self
      simp only [isDoublePlain, Bool.not_eq_true', Bool.or_eq_false_iff, decide_eq_false_iff_not] at hb
      have hstep : step (.double w) b = some ([], .double (w ++ [⟨b, true⟩])) := by
        simp [step, hb.1.1, hb.1.2, hb.2]
      rw [scan, hstep, Option.bind_some, ih _ fun c hc => h c (List.mem_cons_of_mem b hc)]
      simp [quoted]

theorem isDoublePlain_of_isPlain (h : isPlain b = true) : isDoublePlain b = true := by
  obtain ⟨_, _, hunread, _, hdouble, hescape⟩ := isPlain_eq_true.mp h
  simp [isDoublePlain, hunread, hdouble, hescape]

/-! ## 5. Lists of pipelines -/

/-- A simple command: its words, and the files that its output goes to. -/
structure Simple where
  words : List Word
  targets : List Word
  deriving DecidableEq

/-- Commands that are joined by `|`. -/
abbrev Pipeline := List Simple

/-- `&&`. -/
def andIf : Text := [38, 38]

/-- `|`. -/
def bar : Text := [124]

/-- `>`. -/
def great : Text := [62]

/-- The words of the grammar, where they are the name of a command. -/
def reserved : List String :=
  ["!", "\x7b", "\x7d", "case", "do", "done", "elif", "else", "esac", "fi", "for", "if", "in", "then", "until", "while"]

/-- A letter or an underscore. -/
def isNameStart (b : UInt8) : Bool := (65 ≤ b && b ≤ 90) || (97 ≤ b && b ≤ 122) || b = 95

/-- A word that assigns to a variable: an unquoted name and `=`. -/
def Word.isAssignment (w : Word) : Bool :=
  let name := w.takeWhile fun p => p.byte ≠ 61
  (name.head?.any fun p => isNameStart p.byte) &&
    (name.all fun p => !p.quoted && (isNameStart p.byte || (48 ≤ p.byte && p.byte ≤ 57))) &&
    ((w.drop name.length).head?.any fun p => !p.quoted)

/-- A word of the grammar. -/
def Word.isReserved (w : Word) : Bool :=
  (reserved.any fun r => r.toUTF8.toList = w.text) && w.all fun p => !p.quoted

/-- The command has a name, and is none of the grammar. -/
def Simple.isCommand (c : Simple) : Bool := c.words.head?.any fun w => !w.isReserved && !w.isAssignment

/-- What has been parsed; `target` where a `>` waits for its file. -/
structure Parser where
  lines : List Pipeline
  line : Pipeline
  current : Simple
  target : Bool
  deriving DecidableEq

/-- One token. -/
def Parser.feed (p : Parser) : Token → Option Parser
  | .word w =>
    if p.target then some { p with current := { p.current with targets := p.current.targets ++ [w] }, target := false }
    else some { p with current := { p.current with words := p.current.words ++ [w] } }
  | .number _ => none
  | .op o =>
    if p.target then none
    else if o = great then some { p with target := true }
    else if p.current.isCommand = false then none
    else if o = bar then some { p with line := p.line ++ [p.current], current := ⟨[], []⟩ }
    else if o = andIf then
      some { p with lines := p.lines ++ [p.line ++ [p.current]], line := [], current := ⟨[], []⟩ }
    else none

/-- Tokens one behind the other. -/
def Parser.feedAll (p : Parser) : List Token → Option Parser
  | [] => some p
  | t :: ts => (p.feed t).bind fun q => q.feedAll ts

/-- The pipelines at the end. -/
def Parser.close (p : Parser) : Option (List Pipeline) :=
  if p.target || p.current.isCommand = false then none else some (p.lines ++ [p.line ++ [p.current]])

/-- **The pipelines of a script that is nothing else.** -/
def parse (ts : List Token) : Option (List Pipeline) :=
  if ts = [] then some [] else (Parser.feedAll ⟨[], [], ⟨[], []⟩, false⟩ ts).bind Parser.close

/-- **Reading a script.** -/
def read (s : Text) : Option (List Pipeline) := (lex s).bind parse

/-! ### What is read stands unquoted -/

/-- The unquoted bytes of a command mean themselves. -/
def Simple.Plain (c : Simple) : Prop := (∀ w ∈ c.words, w.Plain) ∧ ∀ w ∈ c.targets, w.Plain

/-- Those of what has been parsed. -/
structure Parser.Plain (p : Parser) : Prop where
  lines : ∀ line ∈ p.lines, ∀ c ∈ line, c.Plain
  line : ∀ c ∈ p.line, c.Plain
  current : p.current.Plain

theorem plain_none : Simple.Plain ⟨[], []⟩ :=
  ⟨fun _ h => absurd h List.not_mem_nil, fun _ h => absurd h List.not_mem_nil⟩

/-- One element more. -/
theorem forall_mem_concat {α : Type} {P : α → Prop} {l : List α} {a : α} (hl : ∀ x ∈ l, P x) (ha : P a) :
    ∀ x ∈ l ++ [a], P x := fun x hx =>
  (List.mem_append.mp hx).elim (hl x) fun h => List.mem_singleton.mp h ▸ ha

theorem plain_feed {p q : Parser} {t : Token} (hp : p.Plain) (ht : t.Plain) (h : p.feed t = some q) : q.Plain := by
  obtain ⟨hlines, hline, hcurrent⟩ := hp
  cases t with
  | word w =>
      rw [Parser.feed] at h
      split at h
      · cases h
        exact ⟨hlines, hline, hcurrent.1, forall_mem_concat hcurrent.2 ht⟩
      · cases h
        exact ⟨hlines, hline, forall_mem_concat hcurrent.1 ht, hcurrent.2⟩
  | number w => cases h
  | op o =>
      rw [Parser.feed] at h
      split at h
      · cases h
      split at h
      · cases h
        exact ⟨hlines, hline, hcurrent⟩
      split at h
      · cases h
      split at h
      · cases h
        exact ⟨hlines, forall_mem_concat hline hcurrent, plain_none⟩
      split at h
      · cases h
        exact ⟨forall_mem_concat hlines (forall_mem_concat hline hcurrent), fun _ hc => absurd hc List.not_mem_nil,
          plain_none⟩
      · cases h

theorem plain_feedAll {p q : Parser} (hp : p.Plain) (hts : ∀ t ∈ ts, t.Plain) (h : p.feedAll ts = some q) :
    q.Plain := by
  induction ts generalizing p with
  | nil =>
      cases h
      exact hp
  | cons t ts ih =>
      obtain ⟨r, hr, h⟩ := Option.bind_eq_some_iff.mp h
      exact ih (plain_feed hp (hts t List.mem_cons_self) hr) (fun u hu => hts u (List.mem_cons_of_mem t hu)) h

/-- **In the commands of a script every unquoted byte means itself.** -/
theorem plain_of_read {lines : List Pipeline} (h : read s = some lines) : ∀ line ∈ lines, ∀ c ∈ line, c.Plain := by
  obtain ⟨ts, hlex, hparse⟩ := Option.bind_eq_some_iff.mp h
  rw [parse] at hparse
  split at hparse
  · cases hparse
    exact fun line hline => absurd hline List.not_mem_nil
  · obtain ⟨p, hfeed, hclose⟩ := Option.bind_eq_some_iff.mp hparse
    have hstart : Parser.Plain ⟨[], [], ⟨[], []⟩, false⟩ :=
      ⟨fun _ h => absurd h List.not_mem_nil, fun _ h => absurd h List.not_mem_nil, plain_none⟩
    obtain ⟨hlines, hline, hcurrent⟩ := plain_feedAll hstart (plain_of_lex hlex) hfeed
    rw [Parser.close] at hclose
    split at hclose
    · cases hclose
    · cases hclose
      exact forall_mem_concat hlines (forall_mem_concat hline hcurrent)

/-! ### Writing -/

/-- The tokens of a command. -/
def Simple.tokens (c : Simple) : List Token :=
  c.words.map .word ++ c.targets.flatMap fun w => [.op great, .word w]

/-- The tokens of a pipeline. -/
def lineTokens : Pipeline → List Token
  | [] => []
  | [c] => c.tokens
  | c :: d :: rest => c.tokens ++ .op bar :: lineTokens (d :: rest)

/-- The tokens of a list of pipelines. -/
def tokens : List Pipeline → List Token
  | [] => []
  | [line] => lineTokens line
  | line :: next :: rest => lineTokens line ++ .op andIf :: tokens (next :: rest)

/-- The tokens of some lines and of more of them. -/
theorem tokens_append {lines more : List Pipeline} (hlines : lines ≠ []) (hmore : more ≠ []) :
    tokens (lines ++ more) = tokens lines ++ .op andIf :: tokens more := by
  induction lines using tokens.induct with
  | case1 => exact absurd rfl hlines
  | case2 line =>
      obtain ⟨next, rest, rfl⟩ := List.exists_cons_of_ne_nil hmore
      rfl
  | case3 line next rest ih =>
      have hrest := ih (List.cons_ne_nil next rest)
      rw [List.cons_append] at hrest
      rw [List.cons_append, List.cons_append, tokens, hrest, tokens, List.append_assoc]
      rfl

variable {p q : Parser}

theorem feedAll_append (p : Parser) (ts us : List Token) :
    p.feedAll (ts ++ us) = (p.feedAll ts).bind fun q => q.feedAll us := by
  induction ts generalizing p with
  | nil => rfl
  | cons t ts ih =>
      rw [List.cons_append, Parser.feedAll, Parser.feedAll, Option.bind_assoc]
      exact congrArg _ (funext fun q => ih q)

theorem feedAll_words (hp : p.target = false) (ws : List Word) :
    p.feedAll (ws.map .word) = some { p with current := { p.current with words := p.current.words ++ ws } } := by
  induction ws generalizing p with
  | nil => simp [Parser.feedAll]
  | cons w ws ih =>
      rw [List.map_cons, Parser.feedAll, Parser.feed, hp]
      rw [if_neg Bool.false_ne_true, Option.bind_some, ih rfl]
      simp

theorem feedAll_targets (hp : p.target = false) (ws : List Word) :
    p.feedAll (ws.flatMap fun w => [.op great, .word w]) =
      some { p with current := { p.current with targets := p.current.targets ++ ws } } := by
  induction ws generalizing p with
  | nil => simp [Parser.feedAll]
  | cons w ws ih =>
      have hgreat : p.feed (.op great) = some { p with target := true } := by
        rw [Parser.feed, hp]
        rfl
      rw [List.flatMap_cons, feedAll_append, Parser.feedAll, hgreat, Option.bind_some, Parser.feedAll, Parser.feed]
      rw [if_pos rfl, Option.bind_some, Parser.feedAll, Option.bind_some, ih rfl]
      simp [hp]

/-- The tokens of a command are parsed to the command. -/
theorem feedAll_tokens (hp : p.target = false) (hnone : p.current = ⟨[], []⟩) (c : Simple) :
    p.feedAll c.tokens = some { p with current := c } := by
  rw [Simple.tokens, feedAll_append, feedAll_words hp, Option.bind_some, feedAll_targets (by exact hp), hnone]
  simp

/-- What is left behind the tokens of a pipeline: its last command is the current one. -/
theorem feedAll_lineTokens (hp : p.target = false) (hnone : p.current = ⟨[], []⟩) {line : Pipeline} (hne : line ≠ [])
    (hline : ∀ c ∈ line, c.isCommand = true) :
    ∃ q, p.feedAll (lineTokens line) = some q ∧ q.target = false ∧ q.current.isCommand = true ∧ q.lines = p.lines ∧
      q.line ++ [q.current] = p.line ++ line := by
  induction line using lineTokens.induct generalizing p with
  | case1 => exact absurd rfl hne
  | case2 c =>
      exact ⟨_, feedAll_tokens hp hnone c, hp, hline c List.mem_cons_self, rfl, rfl⟩
  | case3 c d rest ih =>
      have hc : c.isCommand = true := hline c List.mem_cons_self
      have hbar : Parser.feed { p with current := c } (.op bar) =
          some { p with line := p.line ++ [c], current := ⟨[], []⟩ } := by
        rw [Parser.feed]
        simp only [hp, hc]
        rfl
      obtain ⟨q, hq, htarget, hcommand, hlines, hsame⟩ :=
        ih (p := { p with line := p.line ++ [c], current := ⟨[], []⟩ }) hp rfl (List.cons_ne_nil d rest)
          fun e he => hline e (List.mem_cons_of_mem c he)
      refine ⟨q, ?_, htarget, hcommand, hlines, hsame.trans (by simp)⟩
      rw [lineTokens, feedAll_append, feedAll_tokens hp hnone, Option.bind_some, Parser.feedAll, hbar,
        Option.bind_some, hq]

/-- **What is written is parsed.** -/
theorem feedAll_lines (hp : p.target = false) (hnone : p.current = ⟨[], []⟩) (hfirst : p.line = [])
    {lines : List Pipeline} (hne : lines ≠ []) (hlines : ∀ line ∈ lines, line ≠ [] ∧ ∀ c ∈ line, c.isCommand = true) :
    (p.feedAll (tokens lines)).bind Parser.close = some (p.lines ++ lines) := by
  induction lines using tokens.induct generalizing p with
  | case1 => exact absurd rfl hne
  | case2 line =>
      obtain ⟨hline, hcommands⟩ := hlines line List.mem_cons_self
      obtain ⟨q, hq, htarget, hcommand, hkept, hsame⟩ := feedAll_lineTokens hp hnone hline hcommands
      rw [tokens, hq, Option.bind_some, Parser.close, htarget, hcommand]
      simp [hkept, hsame, hfirst]
  | case3 line next rest ih =>
      obtain ⟨hline, hcommands⟩ := hlines line List.mem_cons_self
      obtain ⟨q, hq, htarget, hcommand, hkept, hsame⟩ := feedAll_lineTokens hp hnone hline hcommands
      have hand : q.feed (.op andIf) =
          some { q with lines := q.lines ++ [q.line ++ [q.current]], line := [], current := ⟨[], []⟩ } := by
        rw [Parser.feed]
        simp only [htarget, hcommand]
        rfl
      rw [tokens, feedAll_append, hq, Option.bind_some, Parser.feedAll, hand, Option.bind_some]
      rw [ih (by exact htarget) rfl rfl (List.cons_ne_nil next rest) fun l hl =>
        hlines l (List.mem_cons_of_mem line hl)]
      simp [hkept, hsame, hfirst]

theorem tokens_ne_nil {lines : List Pipeline} (hne : lines ≠ [])
    (hlines : ∀ line ∈ lines, line ≠ [] ∧ ∀ c ∈ line, c.isCommand = true) : tokens lines ≠ [] := by
  intro hnil
  have hparse := feedAll_lines (p := ⟨[], [], ⟨[], []⟩, false⟩) rfl rfl rfl hne hlines
  rw [hnil] at hparse
  cases hparse

/-- **The tokens of pipelines are parsed to the pipelines.** -/
theorem parse_tokens {lines : List Pipeline}
    (hlines : ∀ line ∈ lines, line ≠ [] ∧ ∀ c ∈ line, c.isCommand = true) : parse (tokens lines) = some lines := by
  by_cases hne : lines = []
  · rw [hne]
    rfl
  · rw [parse, if_neg (tokens_ne_nil hne hlines)]
    exact feedAll_lines rfl rfl rfl hne hlines

/-! ## 6. Running -/

section Run

variable {σ : Type} (exec : σ → Text → Simple → σ × Text × Bool)

/-- A pipeline: a command reads what the one before it has written, and the last one says whether it succeeds. -/
def pipe : σ → Text → Pipeline → σ × Bool
  | s, _, [] => (s, true)
  | s, input, [c] => ((exec s input c).1, (exec s input c).2.2)
  | s, input, c :: d :: rest => pipe (exec s input c).1 (exec s input c).2.1 (d :: rest)

/-- Pipelines that are joined by `&&`. -/
def run : σ → List Pipeline → σ × Bool
  | s, [] => (s, true)
  | s, line :: rest => if (pipe exec s [] line).2 then run (pipe exec s [] line).1 rest else pipe exec s [] line

theorem run_append (s : σ) (lines more : List Pipeline) :
    run exec s (lines ++ more) =
      if (run exec s lines).2 then run exec (run exec s lines).1 more else run exec s lines := by
  induction lines generalizing s with
  | nil => rfl
  | cons line lines ih =>
      rw [List.cons_append, run, run]
      by_cases h : (pipe exec s [] line).2 = true
      · rw [if_pos h, if_pos h, ih]
      · rw [if_neg h, if_neg h, if_neg h]

end Run

end Sh
