/-
  File:      Kalm/Component/Injected.lean
  Subject:   FILES THAT ARE INJECTED: what a shell makes of the script of `preparePreInjectedFiles` (controller/
             controllers/component_controller.go).

  * `Dir`, `runCommand`, `runSimple` -- the directory `/files`, and what the commands of the script do there;
  * `PreInjectFile.commands` -- what is meant for a file; `read_injectScript_iff`: the script is read as that when no
    byte of a name means anything to the shell;
  * `afterFiles`, `run_commands` -- what the commands leave; `Filled` holds of it;
  * `Delivers`, `delivers_iff` -- exactly when every file arrives.

  Which paths a pattern matches is a parameter. How long a script may be is not modelled.
-/
import Kalm.Component.DiskChecks
import Kalm.Lib.Sh
import Mathlib.Data.List.TakeWhile

namespace Kalm.Disks

open Sh (Word)

/-! ## 1. The directory -/

/-- A file that is written. -/
structure Injected where
  content : Str
  executable : Bool
  deriving DecidableEq

/-- The files under `/files`. -/
abbrev Dir := Mirror.Table Str Injected

/-- `/files/`. -/
def filesDir : Str := str "/files/"

/-- The most bytes of a name. -/
def nameMax : Nat := 255

/-- The name of a path that is directly under `/files`. -/
def entryOf (path : Str) : Option Str :=
  match (path.splitOn slash).filter (· ≠ []) with
  | [dir, name] => if dir = str "files" ∧ name ≠ str "." ∧ name ≠ str ".." then some name else none
  | _ => none

/-- Writing a file; one that is there stays executable. -/
def writeFile (dir : Dir) (path content : Str) : Option Dir :=
  (entryOf path).bind fun name =>
    if name.length ≤ nameMax then some (dir.insert name ⟨content, (dir.lookup name).any Injected.executable⟩) else none

/-- Opening the files of the redirections: they are emptied, and the first that cannot be opened is the last. -/
def openFiles (dir : Dir) : List Str → Dir × Bool
  | [] => (dir, true)
  | path :: rest =>
    match writeFile dir path [] with
    | some dir' => openFiles dir' rest
    | none => (dir, false)

/-- A file is made executable. -/
def setExecutable (dir : Dir) (name : Str) : Option Dir :=
  (dir.lookup name).map fun file => dir.insert name { file with executable := true }

/-- `chmod +x`: the others follow where a file is missing. -/
def chmod (dir : Dir) : List Str → Dir × Bool
  | [] => (dir, true)
  | path :: rest =>
    match (entryOf path).bind (setExecutable dir) with
    | some dir' => chmod dir' rest
    | none => ((chmod dir rest).1, false)

/-- The commands that are known here: what they print and whether they succeed. Operands of `echo` with a dash in front
    or a backslash are not looked at. -/
def runCommand (dir : Dir) (input : Str) (argv : List Str) : Dir × Str × Bool :=
  match argv with
  | [] => (dir, [], false)
  | name :: args =>
    if name = str "echo" then (dir, (str " ").intercalate args ++ [newline], true)
    else if name = str "base64" ∧ args = [str "-d"] then
      match stdDecode input with
      | some content => (dir, content, true)
      | none => (dir, [], false)
    else if name = str "chmod" ∧ args.head? = some (str "+x") then
      ((chmod dir args.tail).1, [], (chmod dir args.tail).2)
    else (dir, [], false)

section Shell

variable (fnmatch : Word → Str → Bool)

/-- An unquoted `*`, `?` or `[`. -/
def isPattern (w : Word) : Bool := w.any fun p => !p.quoted && (p.byte = 42 || p.byte = 63 || p.byte = 91)

/-- Pathname expansion: a pattern stands for the paths that it matches, and for itself where there are none. -/
def expand (dir : Dir) (w : Word) : List Str :=
  let found := (dir.keys.map fun name => filesDir ++ name).filter (fnmatch w)
  if isPattern w = true ∧ found ≠ [] then found else [w.text]

/-- A simple command; a shell that runs a script does not expand the names of redirections. -/
def runSimple (dir : Dir) (input : Str) (c : Sh.Simple) : Dir × Str × Bool :=
  let argv := c.words.flatMap (expand fnmatch dir)
  let targets := c.targets.map Word.text
  let opened := openFiles dir targets
  if opened.2 = false then (opened.1, [], false)
  else
    let made := runCommand opened.1 input argv
    match targets.getLast? with
    | some path => ((writeFile made.1 path made.2.1).getD made.1, [], made.2.2)
    | none => made

/-- The script of a container. -/
def Container.script (c : Container) : Option Str :=
  match c.command with
  | [shell, flag, script] => if shell = str "sh" ∧ flag = str "-c" then some script else none
  | _ => none

variable (md5 : Md5)

/-- The file that a script leaves under a path. -/
def leftAt (lines : List Sh.Pipeline) (path : Str) : Option Injected :=
  (entryOf path).bind (Sh.run (runSimple fnmatch) (∅ : Dir) lines).1.lookup

/-! ## 2. What is meant -/

/-- The bytes of a file. -/
def PreInjectFile.bytes (file : PreInjectFile) : Str :=
  if file.base64 then (stdDecode file.content).getD [] else file.content

/-- The path that a file is written to. -/
def PreInjectFile.path (file : PreInjectFile) : Str := filesDir ++ file.baseName md5

/-- The commands of a file. -/
def PreInjectFile.commands (file : PreInjectFile) : List Sh.Pipeline :=
  let path := Sh.bare (file.path md5)
  [[⟨[Sh.bare (str "echo"), Sh.quoted file.code], []⟩, ⟨[Sh.bare (str "base64"), Sh.bare (str "-d")], [path]⟩],
    [⟨[Sh.bare (str "echo"), Sh.quoted (str "File " ++ file.baseName md5 ++ str " created.")], []⟩]] ++
  if file.runnable then [[⟨[Sh.bare (str "chmod"), Sh.bare (str "+x"), path], []⟩]] else []

/-- The containers that `preparePreInjectedFiles` adds. -/
def addedContainers (component : Component) (template : PodTemplate) : List Container :=
  (preparePreInjectedFiles md5 component template).1.initContainers.drop template.initContainers.length

/-- What a shell reads of their scripts. -/
def addedLines (component : Component) (template : PodTemplate) : Option (List Sh.Pipeline) :=
  ((addedContainers md5 component template).mapM fun c : Container => c.script.bind Sh.read).map List.flatten

/-- **The files arrive**: the commands are those that are meant, and each file is where its mount looks for it. -/
def Delivers (component : Component) (template : PodTemplate) : Prop :=
  ∃ lines, addedLines md5 component template = some lines ∧
    lines = component.spec.preInjectedFiles.flatMap (fun f => f.commands md5) ∧
    ∀ x ∈ component.spec.preInjectedFiles.zip (preparePreInjectedFiles md5 component template).2.2,
      leftAt fnmatch lines (filesDir ++ x.2.subPath) = some ⟨x.1.bytes, x.1.runnable⟩

/-- A component whose files the webhook accepts, with base64 where it is said. -/
structure AcceptedFiles where
  component : Component
  accepted : validatePreInjectedFiles component = []
  valid : ∀ f ∈ component.spec.preInjectedFiles, f.base64 = true → (stdDecode f.content).isSome

/-! ## 3. What is read -/

variable {md5 : Md5} {file : PreInjectFile}

/-- Every byte of the name means itself. -/
def PreInjectFile.Clean (md5 : Md5) (file : PreInjectFile) : Prop := ∀ b ∈ file.baseName md5, Sh.isPlain b = true

/-- The content is base64 where it is said. -/
def PreInjectFile.Valid (file : PreInjectFile) : Prop := file.base64 = true → (stdDecode file.content).isSome

/-- What is written is the bytes of the file. -/
theorem stdDecode_code (h : file.Valid) : stdDecode file.code = some file.bytes := by
  unfold PreInjectFile.code PreInjectFile.bytes
  by_cases hbase64 : file.base64 = true
  · rw [if_pos hbase64, if_pos hbase64]
    obtain ⟨bs, hbs⟩ := Option.isSome_iff_exists.mp (h hbase64)
    rw [hbs]
    rfl
  · rw [if_neg hbase64, if_neg hbase64]
    exact stdDecode_stdEncode file.content

/-- A byte that a decoder takes means itself within quotes. -/
theorem isDoublePlain_of_value {b : UInt8} (h : rawStdEncoding.value b ≠ none ∨ isLineEnd b = true) :
    Sh.isDoublePlain b = true := by
  rcases h with h | h
  · obtain ⟨d, hd⟩ := Option.ne_none_iff_exists'.mp h
    rw [← rawStdEncoding.value_eq_some.mp hd]
    exact digit_std_of (by decide) d
  · simp only [isLineEnd, Bool.or_eq_true, decide_eq_true_eq] at h
    rcases h with rfl | rfl <;> rfl

/-- **A code holds nothing that means anything within quotes.** -/
theorem isDoublePlain_of_stdDecode {text : Str} {bs : List UInt8} (h : stdDecode text = some bs) :
    ∀ b ∈ text, Sh.isDoublePlain b = true := by
  intro b hb
  by_cases hend : isLineEnd b = true
  · exact isDoublePlain_of_value (Or.inr hend)
  rw [stdDecode] at h
  split at h
  · rename_i hshape
    obtain ⟨_, _, hpadding⟩ := hshape
    set code := text.filter fun b => !isLineEnd b
    have hcode : b ∈ code := List.mem_filter.mpr ⟨hb, by simp [hend]⟩
    have hsplit : code.takeWhile (· ≠ 61) ++ code.drop (code.takeWhile (· ≠ 61)).length = code := by
      conv_rhs => rw [← List.take_append_drop (code.takeWhile (· ≠ 61)).length code]
      rw [← List.prefix_iff_eq_take.mp (List.takeWhile_prefix _)]
    rw [← hsplit] at hcode
    rcases List.mem_append.mp hcode with hdigit | hpad
    · by_contra hplain
      have hvalue : rawStdEncoding.value b = none := by
        by_contra hvalue
        exact hplain (isDoublePlain_of_value (Or.inl hvalue))
      obtain ⟨i, hi⟩ := rawStdEncoding.digits_error hdigit hvalue (Bool.eq_false_iff.mpr hend) 0
      rw [Base64.Alphabet.decode, hi] at h
      cases h
    · rw [of_decide_eq_true (List.all_eq_true.mp hpadding b hpad)]
      rfl
  · cases h

/-- Within a word: `&&` ends it. -/
theorem scan_andIf (w : Word) :
    Sh.scan (.inWord w) (str " && ") = some ([.word w, .op Sh.andIf], .between) := by
  have htext : str " && " = [32, 38, 38, 32] := by decide
  rw [htext]
  rfl

/-- Within quotes: they end, and a blank ends the word. -/
theorem scan_quote (w : Word) (s : Str) :
    Sh.scan (.double w) (34 :: 32 :: s) = (Sh.scan .between s).map fun x => (.word w :: x.1, x.2) := by
  have hquote : Sh.step (.double w) 34 = some ([], .inWord w) := rfl
  have hblank : Sh.step (.inWord w) 32 = some ([.word w], .between) := rfl
  rw [Sh.scan, hquote, Option.bind_some, Sh.scan, hblank, Option.bind_some]
  cases Sh.scan .between s <;> rfl

/-- A path under `/files`. -/
theorem scan_path (h : file.Clean md5) :
    Sh.scan (.inWord (Sh.bare filesDir)) (file.baseName md5) = some ([], .inWord (Sh.bare (file.path md5))) := by
  rw [Sh.scan_plain _ h, PreInjectFile.path, Sh.bare, Sh.bare, Sh.bare, List.map_append]

/-- The commands without the last. -/
def PreInjectFile.writes (md5 : Md5) (file : PreInjectFile) : Str :=
  str "echo \"" ++ file.code ++ str "\" | base64 -d > /files/" ++ file.baseName md5 ++ str " && echo \"File " ++
    file.baseName md5 ++ str " created.\""

/-- What a shell reads up to there. -/
theorem scan_writes (hclean : file.Clean md5) (hvalid : file.Valid) :
    Sh.scan .between (file.writes md5) =
      some ([.word (Sh.bare (str "echo")), .word (Sh.quoted file.code), .op Sh.bar, .word (Sh.bare (str "base64")),
        .word (Sh.bare (str "-d")), .op Sh.great, .word (Sh.bare (file.path md5)), .op Sh.andIf,
        .word (Sh.bare (str "echo"))],
        .inWord (Sh.quoted (str "File " ++ file.baseName md5 ++ str " created."))) := by
  have hecho : Sh.scan .between (str "echo \"") = some ([.word (Sh.bare (str "echo"))], .double []) := by decide
  have hcode : Sh.scan (.double []) file.code = some ([], .double (Sh.quoted file.code)) :=
    Sh.scan_double [] (isDoublePlain_of_stdDecode (stdDecode_code hvalid))
  have hpipe : Sh.scan (.double (Sh.quoted file.code)) (str "\" | base64 -d > /files/") =
      some ([.word (Sh.quoted file.code), .op Sh.bar, .word (Sh.bare (str "base64")), .word (Sh.bare (str "-d")),
        .op Sh.great], .inWord (Sh.bare filesDir)) := by
    have htext : str "\" | base64 -d > /files/" = 34 :: 32 :: str "| base64 -d > /files/" := by decide
    have hrest : Sh.scan .between (str "| base64 -d > /files/") =
        some ([.op Sh.bar, .word (Sh.bare (str "base64")), .word (Sh.bare (str "-d")), .op Sh.great],
          .inWord (Sh.bare filesDir)) := by decide
    rw [htext, scan_quote, hrest]
    rfl
  have hfile : Sh.scan .between (str "echo \"File ") =
      some ([.word (Sh.bare (str "echo"))], .double (Sh.quoted (str "File "))) := by decide
  have hname : Sh.scan (.double (Sh.quoted (str "File "))) (file.baseName md5) =
      some ([], .double (Sh.quoted (str "File ") ++ Sh.quoted (file.baseName md5))) :=
    Sh.scan_double _ fun b hb => Sh.isDoublePlain_of_isPlain (hclean b hb)
  have hcreated : Sh.scan (.double (Sh.quoted (str "File ") ++ Sh.quoted (file.baseName md5))) (str " created.") =
      some ([], .double (Sh.quoted (str "File " ++ file.baseName md5 ++ str " created."))) := by
    have hall : (str " created.").all Sh.isDoublePlain = true := by decide
    rw [Sh.scan_double _ (List.all_eq_true.mp hall)]
    simp only [Sh.quoted, List.map_append, List.append_assoc]
  have hend : ∀ w : Word, Sh.scan (.double w) (str "\"") = some ([], .inWord w) := fun w => by
    have htext : str "\"" = [34] := by decide
    rw [htext]
    rfl
  have hwrites : file.writes md5 = str "echo \"" ++ file.code ++ str "\" | base64 -d > /files/" ++ file.baseName md5 ++
      str " && " ++ str "echo \"File " ++ file.baseName md5 ++ str " created." ++ str "\"" := by
    have hand : str " && echo \"File " = str " && " ++ str "echo \"File " := by decide
    have hquote : str " created.\"" = str " created." ++ str "\"" := by decide
    rw [PreInjectFile.writes, hand, hquote]
    simp only [List.append_assoc]
  rw [hwrites]
  exact Sh.scan_trans (Sh.scan_trans (Sh.scan_trans (Sh.scan_trans (Sh.scan_trans (Sh.scan_trans (Sh.scan_trans
    (Sh.scan_trans hecho hcode) hpipe) (scan_path hclean)) (scan_andIf _)) hfile) hname) hcreated) (hend _)

/-- **The commands of a file are read as they are meant.** -/
theorem scan_cmd (hclean : file.Clean md5) (hvalid : file.Valid) :
    ∃ ts w, Sh.scan .between (file.cmd md5) = some (ts, .inWord w) ∧
      ts ++ [.word w] = Sh.tokens (file.commands md5) := by
  have hwrites := scan_writes hclean hvalid
  by_cases hrunnable : file.runnable = true
  · have hcmd : file.cmd md5 = file.writes md5 ++ (str " && " ++ str "chmod +x /files/" ++ file.baseName md5) := by
      have hand : str " && chmod +x /files/" = str " && " ++ str "chmod +x /files/" := by decide
      rw [PreInjectFile.cmd, if_pos hrunnable, hand]
      rfl
    have hchmod : Sh.scan .between (str "chmod +x /files/") =
        some ([.word (Sh.bare (str "chmod")), .word (Sh.bare (str "+x"))], .inWord (Sh.bare filesDir)) := by
      decide
    have hscan := Sh.scan_trans hwrites (Sh.scan_trans (Sh.scan_trans (scan_andIf _) hchmod) (scan_path hclean))
    rw [← hcmd] at hscan
    refine ⟨_, _, hscan, ?_⟩
    rw [PreInjectFile.commands, if_pos hrunnable]
    rfl
  · have hcmd : file.cmd md5 = file.writes md5 := by
      rw [PreInjectFile.cmd, if_neg hrunnable, List.append_nil]
      rfl
    rw [← hcmd] at hwrites
    refine ⟨_, _, hwrites, ?_⟩
    rw [PreInjectFile.commands, if_neg hrunnable, List.append_nil]
    rfl

theorem commands_ne_nil : file.commands md5 ≠ [] := by
  rw [PreInjectFile.commands]
  exact List.cons_ne_nil _ _

/-- Those of several files. -/
theorem scan_injectScript {files : List PreInjectFile} (hne : files ≠ [])
    (hclean : ∀ f ∈ files, f.Clean md5) (hvalid : ∀ f ∈ files, f.Valid) :
    ∃ ts w, Sh.scan .between (injectScript md5 files) = some (ts, .inWord w) ∧
      ts ++ [.word w] = Sh.tokens (files.flatMap fun f => f.commands md5) := by
  induction files with
  | nil => exact absurd rfl hne
  | cons f files ih =>
      obtain ⟨ts, w, hscan, htokens⟩ :=
        scan_cmd (hclean f List.mem_cons_self) (hvalid f List.mem_cons_self)
      cases files with
      | nil =>
          refine ⟨ts, w, ?_, ?_⟩
          · rw [injectScript, List.map_cons, List.map_nil, List.intercalate_singleton]
            exact hscan
          · rw [List.flatMap_cons, List.flatMap_nil, List.append_nil]
            exact htokens
      | cons g rest =>
          obtain ⟨us, v, hmore, hus⟩ := ih (List.cons_ne_nil g rest)
            (fun e he => hclean e (List.mem_cons_of_mem f he)) fun e he => hvalid e (List.mem_cons_of_mem f he)
          have hscript : injectScript md5 (f :: g :: rest) =
              f.cmd md5 ++ str " && " ++ injectScript md5 (g :: rest) := by
            rw [injectScript, injectScript, List.map_cons, List.map_cons, List.intercalate_cons_cons, List.append_assoc]
          have hboth := Sh.scan_trans (Sh.scan_trans hscan (scan_andIf w)) hmore
          rw [← hscript] at hboth
          refine ⟨_, v, hboth, ?_⟩
          have hrest : ((g :: rest).flatMap fun f => f.commands md5) ≠ [] := fun hnil =>
            commands_ne_nil (List.flatMap_eq_nil_iff.mp hnil g List.mem_cons_self)
          rw [List.flatMap_cons, Sh.tokens_append commands_ne_nil hrest, ← htokens, ← hus]
          simp only [List.append_assoc, List.cons_append, List.nil_append]

/-- The commands that are meant are commands. -/
theorem isCommand_of_mem_commands {line : Sh.Pipeline} (h : line ∈ file.commands md5) :
    line ≠ [] ∧ ∀ c ∈ line, c.isCommand = true := by
  have hecho : ∀ w : Word, Sh.Simple.isCommand ⟨[Sh.bare (str "echo"), w], []⟩ = true := fun w => by
    have hname : (!(Word.isReserved (Sh.bare (str "echo"))) && !(Word.isAssignment (Sh.bare (str "echo")))) = true := by
      decide +kernel
    exact hname
  have hbase64 : ∀ ws : List Word, Sh.Simple.isCommand ⟨[Sh.bare (str "base64"), Sh.bare (str "-d")], ws⟩ = true :=
    fun ws => by
      have hname : (!(Word.isReserved (Sh.bare (str "base64"))) && !(Word.isAssignment (Sh.bare (str "base64")))) =
          true := by decide +kernel
      exact hname
  have hchmod : ∀ w : Word, Sh.Simple.isCommand ⟨[Sh.bare (str "chmod"), Sh.bare (str "+x"), w], []⟩ = true :=
    fun w => by
      have hname : (!(Word.isReserved (Sh.bare (str "chmod"))) && !(Word.isAssignment (Sh.bare (str "chmod")))) =
          true := by decide +kernel
      exact hname
  rw [PreInjectFile.commands] at h
  rcases List.mem_append.mp h with h | h
  · rcases List.mem_cons.mp h with rfl | h
    · refine ⟨List.cons_ne_nil _ _, fun c hc => ?_⟩
      rcases List.mem_cons.mp hc with rfl | hc
      · exact hecho _
      · rw [List.mem_singleton.mp hc]
        exact hbase64 _
    · rw [List.mem_singleton.mp h]
      refine ⟨List.cons_ne_nil _ _, fun c hc => ?_⟩
      rw [List.mem_singleton.mp hc]
      exact hecho _
  · split at h
    · rw [List.mem_singleton.mp h]
      refine ⟨List.cons_ne_nil _ _, fun c hc => ?_⟩
      rw [List.mem_singleton.mp hc]
      exact hchmod _
    · exact absurd h List.not_mem_nil

/-- **The script is read as the commands that are meant exactly when every byte of a name means itself.** -/
theorem read_injectScript_iff {files : List PreInjectFile} (hvalid : ∀ f ∈ files, f.Valid) :
    Sh.read (injectScript md5 files) = some (files.flatMap fun f => f.commands md5) ↔
      ∀ f ∈ files, f.Clean md5 := by
  constructor
  · intro hread f hf
    have hplain := Sh.plain_of_read hread
    have hline : [⟨[Sh.bare (str "echo"), Sh.quoted f.code], []⟩,
        ⟨[Sh.bare (str "base64"), Sh.bare (str "-d")], [Sh.bare (f.path md5)]⟩] ∈ f.commands md5 := by
      rw [PreInjectFile.commands]
      exact List.mem_cons_self
    obtain ⟨_, htargets⟩ := hplain _ (List.mem_flatMap.mpr ⟨f, hf, hline⟩) _ (List.mem_cons_of_mem _ List.mem_cons_self)
    have hpath := Sh.plain_bare_iff.mp (htargets _ List.mem_cons_self)
    exact fun b hb => hpath b (List.mem_append_right _ hb)
  · intro hclean
    by_cases hne : files = []
    · rw [hne]
      rfl
    · obtain ⟨ts, w, hscan, htokens⟩ := scan_injectScript hne hclean hvalid
      rw [Sh.read, Sh.lex_of_scan hscan, Option.bind_some, htokens]
      refine Sh.parse_tokens fun line hline => ?_
      obtain ⟨f, _, hmem⟩ := List.mem_flatMap.mp hline
      exact isCommand_of_mem_commands hmem

/-! ## 4. Names -/

/-- The name that a file has under `/files`. -/
def PreInjectFile.entry (md5 : Md5) (file : PreInjectFile) : Str := (file.baseName md5).filter (· ≠ slash)

/-- A name that stands for itself under `/files`. -/
def IsEntry (name : Str) : Prop := entryOf (filesDir ++ name) = some name

theorem pathBase_cases (path : Str) : pathBase path = str "/" ∨ slash ∉ pathBase path := by
  unfold pathBase
  split
  · exact Or.inr (by decide)
  · dsimp only
    split
    · exact Or.inl rfl
    · refine Or.inr fun hmem => ?_
      have hname := List.mem_takeWhile_imp (List.mem_reverse.mp hmem)
      simp at hname

/-- A path with two parts. -/
theorem entryOf_eq {path name : Str} (hparts : (path.splitOn slash).filter (· ≠ []) = [str "files", name])
    (hlong : 2 < name.length) : entryOf path = some name := by
  have hdot : name ≠ str "." := fun h => by
    rw [h] at hlong
    exact absurd hlong (by decide)
  have hdots : name ≠ str ".." := fun h => by
    rw [h] at hlong
    exact absurd hlong (by decide)
  rw [entryOf, hparts]
  exact if_pos ⟨rfl, hdot, hdots⟩

theorem isEntry_of {name : Str} (hslash : slash ∉ name) (hlong : 2 < name.length) : IsEntry name := by
  have hfiles : slash ∉ str "files" := by decide
  have hpath : filesDir ++ name = [slash].intercalate [[], str "files", name] := by
    have hdir : filesDir = [] ++ [slash] ++ str "files" ++ [slash] := by decide
    rw [hdir, List.intercalate_cons_cons, List.intercalate_cons_cons, List.intercalate_singleton]
    simp only [List.append_assoc]
  refine entryOf_eq ?_ hlong
  have hsplit : ([slash].intercalate [[], str "files", name]).splitOn slash = [[], str "files", name] := by
    refine List.splitOn_intercalate slash (fun part hpart => ?_) (List.cons_ne_nil _ _)
    rcases List.mem_cons.mp hpart with rfl | hpart
    · exact List.not_mem_nil
    · rcases List.mem_cons.mp hpart with rfl | hpart
      · exact hfiles
      · rw [List.mem_singleton.mp hpart]
        exact hslash
  have hname : name ≠ [] := fun h => by
    rw [h] at hlong
    exact absurd hlong (by decide)
  rw [hpath, hsplit]
  simp [hname, show str "files" ≠ [] by decide]

/-- The hash of a file. -/
def PreInjectFile.suffix (md5 : Md5) (file : PreInjectFile) : Str := dot :: hexEncode (md5 file.code).toList

theorem slash_not_mem_suffix : slash ∉ file.suffix md5 := by
  intro h
  rcases List.mem_cons.mp h with h | h
  · exact absurd h (by decide)
  · rcases hexEncode_range h with ⟨hlow, _⟩ | ⟨hlow, _⟩
    · exact absurd hlow (by decide)
    · exact absurd hlow (by decide)

theorem length_suffix : (file.suffix md5).length = 33 := by
  rw [PreInjectFile.suffix, List.length_cons, length_hexEncode, Vector.length_toList]

/-- **The path of a file leads to its entry**, and the entry stands for itself. -/
theorem entryOf_path : entryOf (file.path md5) = some (file.entry md5) ∧ IsEntry (file.entry md5) := by
  have hname : file.baseName md5 = pathBase file.mountPath ++ file.suffix md5 := rfl
  have hlength : (file.suffix md5).length = 33 := length_suffix
  have hsuffix : (file.suffix md5).filter (· ≠ slash) = file.suffix md5 :=
    List.filter_eq_self.mpr fun b hb => decide_eq_true fun h => slash_not_mem_suffix (h ▸ hb)
  rcases pathBase_cases file.mountPath with hbase | hbase
  · have hentry : file.entry md5 = file.suffix md5 := by
      rw [PreInjectFile.entry, hname, hbase, List.filter_append, hsuffix]
      rfl
    have hself : IsEntry (file.suffix md5) := isEntry_of slash_not_mem_suffix (by omega)
    rw [hentry]
    refine ⟨entryOf_eq ?_ (by omega), hself⟩
    have hpath : file.path md5 = [slash].intercalate [[], str "files", [], file.suffix md5] := by
      have hdir : filesDir ++ str "/" = [] ++ [slash] ++ str "files" ++ [slash] ++ [] ++ [slash] := by decide
      rw [PreInjectFile.path, hname, hbase, ← List.append_assoc, hdir, List.intercalate_cons_cons,
        List.intercalate_cons_cons, List.intercalate_cons_cons, List.intercalate_singleton]
      simp only [List.append_assoc]
    have hsplit : ([slash].intercalate [[], str "files", [], file.suffix md5]).splitOn slash =
        [[], str "files", [], file.suffix md5] := by
      refine List.splitOn_intercalate slash (fun part hpart => ?_) (List.cons_ne_nil _ _)
      have hfiles : slash ∉ str "files" := by decide
      simp only [List.mem_cons, List.not_mem_nil, or_false] at hpart
      rcases hpart with rfl | rfl | rfl | rfl
      · exact List.not_mem_nil
      · exact hfiles
      · exact List.not_mem_nil
      · exact slash_not_mem_suffix
    have hne : file.suffix md5 ≠ [] := List.cons_ne_nil _ _
    rw [hpath, hsplit]
    simp [hne, show str "files" ≠ [] by decide]
  · have hslash : slash ∉ file.baseName md5 := fun h => (List.mem_append.mp h).elim hbase slash_not_mem_suffix
    have hentry : file.entry md5 = file.baseName md5 :=
      List.filter_eq_self.mpr fun b hb => decide_eq_true fun h => hslash (h ▸ hb)
    have hself : IsEntry (file.baseName md5) := by
      refine isEntry_of hslash ?_
      rw [hname, List.length_append]
      omega
    rw [hentry]
    exact ⟨hself, hself⟩

/-! ## 5. What is left -/

/-- Files are made executable, those that are there. -/
def makeExecutable (dir : Dir) (names : List Str) : Dir := names.foldl (fun d name => (setExecutable d name).getD d) dir

variable {dir : Dir} {name : Str}

theorem lookup_setExecutable (h : name ∈ dir) (n : Str) :
    ∃ dir', setExecutable dir name = some dir' ∧
      dir'.lookup n = (dir.lookup n).map fun f => if n = name then { f with executable := true } else f := by
  obtain ⟨file, hfile⟩ := Option.isSome_iff_exists.mp (AList.lookup_isSome.mpr h)
  refine ⟨_, by rw [setExecutable, hfile, Option.map_some], ?_⟩
  by_cases hn : n = name
  · rw [hn, AList.lookup_insert, hfile, Option.map_some, if_pos rfl]
  · rw [AList.lookup_insert_ne hn]
    cases dir.lookup n with
    | none => rfl
    | some f => rw [Option.map_some, if_neg hn]

/-- One file after the other. -/
theorem lookup_makeExecutable {names : List Str} (h : ∀ n ∈ names, n ∈ dir) (n : Str) :
    (makeExecutable dir names).lookup n =
      (dir.lookup n).map fun f => if n ∈ names then { f with executable := true } else f := by
  induction names generalizing dir with
  | nil => cases hlookup : dir.lookup n <;> simp [makeExecutable, hlookup]
  | cons first names ih =>
      obtain ⟨dir', hset, hfirst⟩ := lookup_setExecutable (h first List.mem_cons_self) n
      have hmem : ∀ m ∈ names, m ∈ dir' := by
        intro m hm
        obtain ⟨dir'', hset', hm'⟩ := lookup_setExecutable (h first List.mem_cons_self) m
        rw [hset] at hset'
        rw [← AList.lookup_isSome, Option.some.inj hset', hm', Option.isSome_map]
        exact AList.lookup_isSome.mpr (h m (List.mem_cons_of_mem first hm))
      have hrest : makeExecutable dir (first :: names) = makeExecutable dir' names := by
        rw [makeExecutable, List.foldl_cons, hset]
        rfl
      rw [hrest, ih hmem, hfirst, Option.map_map]
      refine congrArg (fun g => (dir.lookup n).map g) (funext fun f => ?_)
      by_cases hn : n = first
      · by_cases hrest : n ∈ names <;> simp [hn]
      · by_cases hrest : n ∈ names <;> simp [hn, hrest]

theorem mem_makeExecutable {names : List Str} (h : ∀ n ∈ names, n ∈ dir) {n : Str} :
    n ∈ makeExecutable dir names ↔ n ∈ dir := by
  rw [← AList.lookup_isSome, lookup_makeExecutable h, Option.isSome_map, AList.lookup_isSome]

/-- **`chmod` makes the files of its paths executable.** -/
theorem chmod_eq {paths names : List Str} (hpaths : paths.map entryOf = names.map some) (hmem : ∀ n ∈ names, n ∈ dir) :
    chmod dir paths = (makeExecutable dir names, true) := by
  induction paths generalizing dir names with
  | nil =>
      obtain rfl : names = [] := List.map_eq_nil_iff.mp hpaths.symm
      rfl
  | cons path paths ih =>
      cases names with
      | nil => cases hpaths
      | cons first names =>
          rw [List.map_cons, List.map_cons] at hpaths
          obtain ⟨hfirst, hrest⟩ := List.cons.inj hpaths
          have hthere := hmem first List.mem_cons_self
          obtain ⟨dir', hset, _⟩ := lookup_setExecutable hthere first
          have hmem' : ∀ n ∈ names, n ∈ dir' := by
            intro n hn
            obtain ⟨dir'', hset', hlookup⟩ := lookup_setExecutable hthere n
            rw [hset] at hset'
            rw [← AList.lookup_isSome, Option.some.inj hset', hlookup, Option.isSome_map]
            exact AList.lookup_isSome.mpr (hmem n (List.mem_cons_of_mem first hn))
          rw [chmod, hfirst, Option.bind_some, hset]
          rw [makeExecutable, List.foldl_cons, hset]
          exact ih hrest hmem'

variable {fnmatch : Word → Str → Bool}

/-- The names that `chmod` is run for, when `names` are there. -/
def PreInjectFile.targets (fnmatch : Word → Str → Bool) (md5 : Md5) (names : List Str) (file : PreInjectFile) :
    List Str :=
  let found := names.filter fun name => fnmatch (Sh.bare (file.path md5)) (filesDir ++ name)
  if isPattern (Sh.bare (file.path md5)) = true ∧ found ≠ [] then found else [file.entry md5]

theorem mem_of_mem_targets {names : List Str} (h : name ∈ file.targets fnmatch md5 names)
    (hentry : file.entry md5 ∈ names) : name ∈ names := by
  unfold PreInjectFile.targets at h
  dsimp only at h
  split at h
  · exact List.mem_of_mem_filter h
  · rw [List.mem_singleton.mp h]
    exact hentry

/-- They depend on what is there, and on nothing else. -/
theorem mem_targets_congr {names names' : List Str} (h : ∀ n, n ∈ names ↔ n ∈ names') :
    name ∈ file.targets fnmatch md5 names ↔ name ∈ file.targets fnmatch md5 names' := by
  have hfound : ∀ n, n ∈ names.filter (fun n => fnmatch (Sh.bare (file.path md5)) (filesDir ++ n)) ↔
      n ∈ names'.filter fun n => fnmatch (Sh.bare (file.path md5)) (filesDir ++ n) := fun n => by
    rw [List.mem_filter, List.mem_filter, h n]
  have hnil : names.filter (fun n => fnmatch (Sh.bare (file.path md5)) (filesDir ++ n)) = [] ↔
      names'.filter (fun n => fnmatch (Sh.bare (file.path md5)) (filesDir ++ n)) = [] := by
    rw [List.eq_nil_iff_forall_not_mem, List.eq_nil_iff_forall_not_mem]
    exact forall_congr' fun n => not_congr (hfound n)
  unfold PreInjectFile.targets
  dsimp only
  by_cases hcase : isPattern (Sh.bare (file.path md5)) = true ∧
      names.filter (fun n => fnmatch (Sh.bare (file.path md5)) (filesDir ++ n)) ≠ []
  · rw [if_pos hcase, if_pos ⟨hcase.1, fun hn => hcase.2 (hnil.mpr hn)⟩]
    exact hfound name
  · rw [if_neg hcase, if_neg fun hc => hcase ⟨hc.1, fun hn => hc.2 (hnil.mp hn)⟩]

/-- The directory when a file is written. -/
def writtenFile (md5 : Md5) (dir : Dir) (file : PreInjectFile) : Dir :=
  dir.insert (file.entry md5) ⟨file.bytes, (dir.lookup (file.entry md5)).any Injected.executable⟩

/-- The directory behind the commands of a file. -/
def afterFile (fnmatch : Word → Str → Bool) (md5 : Md5) (dir : Dir) (file : PreInjectFile) : Dir :=
  let written := writtenFile md5 dir file
  if file.runnable then makeExecutable written (file.targets fnmatch md5 written.keys) else written

/-- The directory behind the commands of some files. -/
def afterFiles (fnmatch : Word → Str → Bool) (md5 : Md5) (files : List PreInjectFile) : Dir :=
  files.foldl (afterFile fnmatch md5) ∅

/-! ### The commands -/

theorem text_bare (s : Str) : Word.text (Sh.bare s) = s := by
  rw [Word.text, Sh.bare, List.map_map]
  exact List.map_id _

theorem text_quoted (s : Str) : Word.text (Sh.quoted s) = s := by
  rw [Word.text, Sh.quoted, List.map_map]
  exact List.map_id _

theorem isPattern_quoted (s : Str) : isPattern (Sh.quoted s) = false := by
  rw [isPattern, List.any_eq_false]
  intro p hp
  obtain ⟨b, _, rfl⟩ := List.mem_map.mp hp
  simp

/-- A word that is no pattern stands for itself. -/
theorem expand_of_not {w : Word} (h : isPattern w = false) : expand fnmatch dir w = [w.text] := by
  rw [expand]
  exact if_neg fun hc => by rw [h] at hc; exact Bool.false_ne_true hc.1

/-- The paths of `chmod`. -/
theorem expand_path (hnames : ∀ n ∈ dir, IsEntry n) :
    (expand fnmatch dir (Sh.bare (file.path md5))).map entryOf = (file.targets fnmatch md5 dir.keys).map some := by
  have hfound : (dir.keys.map fun n => filesDir ++ n).filter (fnmatch (Sh.bare (file.path md5))) =
      (dir.keys.filter fun n => fnmatch (Sh.bare (file.path md5)) (filesDir ++ n)).map fun n => filesDir ++ n :=
    List.filter_map
  have hnil :
      (dir.keys.filter fun n => fnmatch (Sh.bare (file.path md5)) (filesDir ++ n)).map (fun n => filesDir ++ n) ≠ [] ↔
        (dir.keys.filter fun n => fnmatch (Sh.bare (file.path md5)) (filesDir ++ n)) ≠ [] :=
    not_congr List.map_eq_nil_iff
  rw [expand, PreInjectFile.targets, hfound]
  by_cases hcase : isPattern (Sh.bare (file.path md5)) = true ∧
      (dir.keys.filter fun n => fnmatch (Sh.bare (file.path md5)) (filesDir ++ n)) ≠ []
  · rw [if_pos hcase, if_pos ⟨hcase.1, hnil.mpr hcase.2⟩, List.map_map]
    refine List.map_congr_left fun n hn => ?_
    exact hnames n (AList.mem_keys.mp (List.mem_of_mem_filter hn))
  · rw [if_neg hcase, if_neg fun hc => hcase ⟨hc.1, hnil.mp hc.2⟩]
    rw [text_bare, List.map_singleton, entryOf_path.1, List.map_singleton]

theorem runSimple_echo (input s : Str) :
    runSimple fnmatch dir input ⟨[Sh.bare (str "echo"), Sh.quoted s], []⟩ = (dir, s ++ [newline], true) := by
  have hecho : expand fnmatch dir (Sh.bare (str "echo")) = [str "echo"] := by
    rw [expand_of_not (by decide), text_bare]
  have hs : expand fnmatch dir (Sh.quoted s) = [s] := by rw [expand_of_not (isPattern_quoted s), text_quoted]
  have hrun : runCommand dir input [str "echo", s] = (dir, s ++ [newline], true) := by
    rw [runCommand, if_pos rfl, List.intercalate_singleton]
  rw [runSimple, List.flatMap_cons, List.flatMap_cons, List.flatMap_nil, hecho, hs]
  exact hrun

theorem writeFile_path (content : Str) :
    writeFile dir (file.path md5) content =
      if (file.entry md5).length ≤ nameMax then
        some (dir.insert (file.entry md5) ⟨content, (dir.lookup (file.entry md5)).any Injected.executable⟩)
      else none := by
  rw [writeFile, entryOf_path.1, Option.bind_some]

/-- The words of the decoder. -/
theorem expand_base64 : [Sh.bare (str "base64"), Sh.bare (str "-d")].flatMap (expand fnmatch dir) =
    [str "base64", str "-d"] := by
  rw [List.flatMap_cons, List.flatMap_cons, List.flatMap_nil, expand_of_not (by decide),
    expand_of_not (by decide), text_bare, text_bare]
  rfl

/-- A file is decoded to its path. -/
theorem runSimple_base64 (hvalid : file.Valid) (hshort : (file.entry md5).length ≤ nameMax) :
    runSimple fnmatch dir (file.code ++ [newline])
        ⟨[Sh.bare (str "base64"), Sh.bare (str "-d")], [Sh.bare (file.path md5)]⟩ =
      (writtenFile md5 dir file, [], true) := by
  set opened := dir.insert (file.entry md5) ⟨[], (dir.lookup (file.entry md5)).any Injected.executable⟩ with hopened
  have hdecode : stdDecode (file.code ++ [newline]) = some file.bytes := by
    have hend : ∀ b ∈ [newline], isLineEnd b = true := fun b hb => by
      rw [List.mem_singleton.mp hb]
      rfl
    rw [stdDecode_append hend, stdDecode_code hvalid]
  have hopen : openFiles dir [file.path md5] = (opened, true) := by
    rw [openFiles, writeFile_path, if_pos hshort]
    rfl
  have hrun : runCommand opened (file.code ++ [newline]) [str "base64", str "-d"] = (opened, file.bytes, true) := by
    rw [runCommand, if_neg (by decide), if_pos ⟨rfl, rfl⟩, hdecode]
  have hwrite : writeFile opened (file.path md5) file.bytes = some (writtenFile md5 dir file) := by
    rw [writeFile_path, if_pos hshort, hopened, AList.lookup_insert, AList.insert_insert]
    rfl
  rw [runSimple, expand_base64, List.map_singleton, text_bare, hopen]
  dsimp only
  rw [hrun, if_neg Bool.true_eq_false.mp, List.getLast?_singleton]
  dsimp only
  rw [hwrite]
  rfl

/-- A path with too long a name is not opened. -/
theorem runSimple_base64_long (input : Str) (hlong : ¬ (file.entry md5).length ≤ nameMax) :
    runSimple fnmatch dir input ⟨[Sh.bare (str "base64"), Sh.bare (str "-d")], [Sh.bare (file.path md5)]⟩ =
      (dir, [], false) := by
  have hopen : openFiles dir [file.path md5] = (dir, false) := by rw [openFiles, writeFile_path, if_neg hlong]
  rw [runSimple, List.map_singleton, text_bare, hopen]
  rfl

theorem runSimple_chmod (hnames : ∀ n ∈ dir, IsEntry n) (hentry : file.entry md5 ∈ dir) :
    runSimple fnmatch dir [] ⟨[Sh.bare (str "chmod"), Sh.bare (str "+x"), Sh.bare (file.path md5)], []⟩ =
      (makeExecutable dir (file.targets fnmatch md5 dir.keys), [], true) := by
  have hargv : [Sh.bare (str "chmod"), Sh.bare (str "+x"), Sh.bare (file.path md5)].flatMap (expand fnmatch dir) =
      str "chmod" :: str "+x" :: expand fnmatch dir (Sh.bare (file.path md5)) := by
    rw [List.flatMap_cons, List.flatMap_cons, List.flatMap_cons, List.flatMap_nil, expand_of_not (by decide),
      expand_of_not (by decide), text_bare, text_bare, List.append_nil]
    rfl
  have hmem : ∀ n ∈ file.targets fnmatch md5 dir.keys, n ∈ dir := fun n hn =>
    AList.mem_keys.mp (mem_of_mem_targets hn (AList.mem_keys.mpr hentry))
  have hpaths : (expand fnmatch dir (Sh.bare (file.path md5))).map entryOf =
      (file.targets fnmatch md5 dir.keys).map some := expand_path hnames
  have hrun : runCommand dir [] (str "chmod" :: str "+x" :: expand fnmatch dir (Sh.bare (file.path md5))) =
      (makeExecutable dir (file.targets fnmatch md5 dir.keys), [], true) := by
    have hbase64 : str "chmod" ≠ str "base64" := by decide
    rw [runCommand, if_neg (by decide), if_neg fun hc => hbase64 hc.1, if_pos ⟨rfl, rfl⟩, List.tail_cons,
      chmod_eq hpaths hmem]
  rw [runSimple, hargv]
  exact hrun

/-- The names that are there when a file is written. -/
theorem mem_writtenFile : name ∈ writtenFile md5 dir file ↔ name = file.entry md5 ∨ name ∈ dir := AList.mem_insert dir

theorem targets_mem_writtenFile :
    ∀ n ∈ file.targets fnmatch md5 (writtenFile md5 dir file).keys, n ∈ writtenFile md5 dir file := fun _ hn =>
  AList.mem_keys.mp (mem_of_mem_targets hn (AList.mem_keys.mpr (mem_writtenFile.mpr (Or.inl rfl))))

theorem mem_afterFile : name ∈ afterFile fnmatch md5 dir file ↔ name = file.entry md5 ∨ name ∈ dir := by
  rw [afterFile]
  split
  · rw [mem_makeExecutable targets_mem_writtenFile, mem_writtenFile]
  · exact mem_writtenFile

/-- **The commands of a file.** -/
theorem run_commands (hnames : ∀ n ∈ dir, IsEntry n) (hvalid : file.Valid)
    (hshort : (file.entry md5).length ≤ nameMax) :
    Sh.run (runSimple fnmatch) dir (file.commands md5) = (afterFile fnmatch md5 dir file, true) := by
  have hwritten : ∀ n ∈ writtenFile md5 dir file, IsEntry n := by
    intro n hn
    rcases mem_writtenFile.mp hn with rfl | hn
    · exact entryOf_path.2
    · exact hnames n hn
  have hthere : file.entry md5 ∈ writtenFile md5 dir file := mem_writtenFile.mpr (Or.inl rfl)
  rw [PreInjectFile.commands, Sh.run_append]
  have hwrite : Sh.run (runSimple fnmatch) dir
      [[⟨[Sh.bare (str "echo"), Sh.quoted file.code], []⟩,
        ⟨[Sh.bare (str "base64"), Sh.bare (str "-d")], [Sh.bare (file.path md5)]⟩],
      [⟨[Sh.bare (str "echo"), Sh.quoted (str "File " ++ file.baseName md5 ++ str " created.")], []⟩]] =
      (writtenFile md5 dir file, true) := by
    rw [Sh.run, Sh.pipe, runSimple_echo, Sh.pipe, runSimple_base64 hvalid hshort, if_pos rfl, Sh.run, Sh.pipe,
      runSimple_echo, if_pos rfl, Sh.run]
  rw [hwrite, if_pos rfl, afterFile]
  by_cases hrunnable : file.runnable = true
  · rw [if_pos hrunnable, if_pos hrunnable, Sh.run, Sh.pipe, runSimple_chmod hwritten hthere, if_pos rfl, Sh.run]
  · rw [if_neg hrunnable, if_neg hrunnable, Sh.run]

/-- With too long a name nothing is written, and nothing more is run. -/
theorem run_commands_long (hlong : ¬ (file.entry md5).length ≤ nameMax) :
    Sh.run (runSimple fnmatch) dir (file.commands md5) = (dir, false) := by
  rw [PreInjectFile.commands, Sh.run_append]
  have hwrite : Sh.run (runSimple fnmatch) dir
      [[⟨[Sh.bare (str "echo"), Sh.quoted file.code], []⟩,
        ⟨[Sh.bare (str "base64"), Sh.bare (str "-d")], [Sh.bare (file.path md5)]⟩],
      [⟨[Sh.bare (str "echo"), Sh.quoted (str "File " ++ file.baseName md5 ++ str " created.")], []⟩]] =
      (dir, false) := by
    rw [Sh.run, Sh.pipe, runSimple_echo, Sh.pipe, runSimple_base64_long _ hlong, if_neg Bool.false_ne_true]
  rw [hwrite, if_neg Bool.false_ne_true]

/-- The name of a file is not too long. -/
def PreInjectFile.short (md5 : Md5) (file : PreInjectFile) : Bool := (file.entry md5).length ≤ nameMax

/-- **The commands of some files** run up to the first with too long a name. -/
theorem run_files {files : List PreInjectFile} (hnames : ∀ n ∈ dir, IsEntry n) (hvalid : ∀ f ∈ files, f.Valid) :
    Sh.run (runSimple fnmatch) dir (files.flatMap fun f => f.commands md5) =
      ((files.takeWhile fun f => f.short md5).foldl (afterFile fnmatch md5) dir, files.all fun f => f.short md5) := by
  induction files generalizing dir with
  | nil => rfl
  | cons f files ih =>
      rw [List.flatMap_cons, Sh.run_append]
      by_cases hshort : f.short md5 = true
      · have hafter : ∀ n ∈ afterFile fnmatch md5 dir f, IsEntry n := by
          intro n hn
          rcases mem_afterFile.mp hn with rfl | hn
          · exact entryOf_path.2
          · exact hnames n hn
        rw [run_commands hnames (hvalid f List.mem_cons_self) (of_decide_eq_true hshort), if_pos rfl,
          ih hafter fun g hg => hvalid g (List.mem_cons_of_mem f hg), List.takeWhile_cons_of_pos hshort,
          List.foldl_cons, List.all_cons, hshort, Bool.true_and]
      · have hlong : ¬ (f.entry md5).length ≤ nameMax := fun h => hshort (decide_eq_true h)
        rw [run_commands_long hlong, if_neg Bool.false_ne_true, List.takeWhile_cons_of_neg hshort, List.foldl_nil,
          List.all_cons, Bool.eq_false_iff.mpr hshort, Bool.false_and]

/-! ### What holds behind the files -/

/-- Some file is runnable whose `chmod` finds the name, among those that are there by then. -/
def MadeExecutable (fnmatch : Word → Str → Bool) (md5 : Md5) (files : List PreInjectFile) (name : Str) : Prop :=
  ∃ front file back, files = front ++ file :: back ∧ file.runnable = true ∧
    name ∈ file.targets fnmatch md5 ((front ++ [file]).map fun f => f.entry md5)

/-- One file more. -/
theorem madeExecutable_concat {files : List PreInjectFile} :
    MadeExecutable fnmatch md5 (files ++ [file]) name ↔ MadeExecutable fnmatch md5 files name ∨
      file.runnable = true ∧ name ∈ file.targets fnmatch md5 ((files ++ [file]).map fun f => f.entry md5) := by
  constructor
  · intro h
    obtain ⟨front, g, back, hsplit, hrunnable, hname⟩ := h
    rcases List.eq_nil_or_concat back with rfl | ⟨back, last, rfl⟩
    · obtain ⟨rfl, hlast⟩ := List.append_inj' hsplit rfl
      obtain rfl : file = g := List.singleton_inj.mp hlast
      exact Or.inr ⟨hrunnable, hname⟩
    · rw [List.concat_eq_append, ← List.cons_append, ← List.append_assoc] at hsplit
      obtain ⟨rfl, _⟩ := List.append_inj' hsplit rfl
      exact Or.inl ⟨front, g, back, rfl, hrunnable, hname⟩
  · intro h
    rcases h with ⟨front, g, back, rfl, hrunnable, hname⟩ | ⟨hrunnable, hname⟩
    · exact ⟨front, g, back ++ [file], List.append_assoc front (g :: back) [file], hrunnable, hname⟩
    · exact ⟨files, file, [], rfl, hrunnable, hname⟩

/-- A name that is made executable is that of a file. -/
theorem exists_of_madeExecutable {files : List PreInjectFile} (h : MadeExecutable fnmatch md5 files name) :
    ∃ f ∈ files, f.entry md5 = name := by
  obtain ⟨front, file, back, rfl, _, hname⟩ := h
  have hmem : name ∈ (front ++ [file]).map fun f => f.entry md5 :=
    mem_of_mem_targets hname (List.mem_map_of_mem (List.mem_append_right front List.mem_cons_self))
  obtain ⟨f, hf, hentry⟩ := List.mem_map.mp hmem
  refine ⟨f, ?_, hentry⟩
  rcases List.mem_append.mp hf with hf | hf
  · exact List.mem_append_left _ hf
  · rw [List.mem_singleton.mp hf]
    exact List.mem_append_right front List.mem_cons_self

/-- The directory behind some files: their names, the bytes of one of them under each, and what is executable. -/
structure Filled (fnmatch : Word → Str → Bool) (md5 : Md5) (files : List PreInjectFile) (dir : Dir) : Prop where
  names : ∀ n, n ∈ dir ↔ ∃ f ∈ files, f.entry md5 = n
  content : ∀ n i, dir.lookup n = some i → ∃ f ∈ files, f.entry md5 = n ∧ f.bytes = i.content
  executable : ∀ n i, dir.lookup n = some i → (i.executable = true ↔ MadeExecutable fnmatch md5 files n)

theorem filled_empty : Filled fnmatch md5 [] ∅ where
  names n := by simp
  content n i h := by simp at h
  executable n i h := by simp at h

/-- The names when a file is written. -/
theorem Filled.names_written {files : List PreInjectFile} (h : Filled fnmatch md5 files dir) (n : Str) :
    n ∈ writtenFile md5 dir file ↔ ∃ f ∈ files ++ [file], f.entry md5 = n := by
  rw [mem_writtenFile, h.names]
  constructor
  · intro hn
    rcases hn with rfl | ⟨f, hf, hentry⟩
    · exact ⟨file, List.mem_append_right files List.mem_cons_self, rfl⟩
    · exact ⟨f, List.mem_append_left [file] hf, hentry⟩
  · intro hn
    obtain ⟨f, hf, hentry⟩ := hn
    rcases List.mem_append.mp hf with hf | hf
    · exact Or.inr ⟨f, hf, hentry⟩
    · rw [List.mem_singleton.mp hf] at hentry
      exact Or.inl hentry.symm

/-- The bytes and the flags when a file is written. -/
theorem Filled.lookup_written {files : List PreInjectFile} (h : Filled fnmatch md5 files dir) {n : Str} {i : Injected}
    (hi : (writtenFile md5 dir file).lookup n = some i) :
    (∃ f ∈ files ++ [file], f.entry md5 = n ∧ f.bytes = i.content) ∧
      (i.executable = true ↔ MadeExecutable fnmatch md5 files n) := by
  by_cases hn : n = file.entry md5
  · rw [hn, writtenFile, AList.lookup_insert] at hi
    obtain rfl := Option.some.inj hi
    refine ⟨⟨file, List.mem_append_right files List.mem_cons_self, hn.symm, rfl⟩, ?_⟩
    rw [hn, Option.any_eq_true]
    constructor
    · intro hold
      obtain ⟨j, hj, hexecutable⟩ := hold
      exact (h.executable _ j hj).mp hexecutable
    · intro hmade
      -- a file with the name has been written before
      have hthere : file.entry md5 ∈ dir := (h.names _).mpr (exists_of_madeExecutable hmade)
      obtain ⟨j, hj⟩ := Option.isSome_iff_exists.mp (AList.lookup_isSome.mpr hthere)
      exact ⟨j, hj, (h.executable _ j hj).mpr hmade⟩
  · rw [writtenFile, AList.lookup_insert_ne hn] at hi
    obtain ⟨f, hf, hentry⟩ := h.content n i hi
    exact ⟨⟨f, List.mem_append_left [file] hf, hentry⟩, h.executable n i hi⟩

/-- **One file keeps it.** -/
theorem Filled.after {files : List PreInjectFile} (h : Filled fnmatch md5 files dir) :
    Filled fnmatch md5 (files ++ [file]) (afterFile fnmatch md5 dir file) := by
  have hnames : ∀ n, n ∈ afterFile fnmatch md5 dir file ↔ ∃ f ∈ files ++ [file], f.entry md5 = n := fun n => by
    rw [mem_afterFile, ← mem_writtenFile]
    exact h.names_written n
  by_cases hrunnable : file.runnable = true
  · have hafter : afterFile fnmatch md5 dir file = makeExecutable (writtenFile md5 dir file)
        (file.targets fnmatch md5 (writtenFile md5 dir file).keys) := if_pos hrunnable
    have htargets : ∀ n, n ∈ file.targets fnmatch md5 (writtenFile md5 dir file).keys ↔
        n ∈ file.targets fnmatch md5 ((files ++ [file]).map fun f => f.entry md5) := fun n =>
      mem_targets_congr fun m => by rw [AList.mem_keys.symm, h.names_written m, List.mem_map]
    have hlookup : ∀ n i, (afterFile fnmatch md5 dir file).lookup n = some i →
        ∃ j, (writtenFile md5 dir file).lookup n = some j ∧ j.content = i.content ∧ (i.executable = true ↔
          j.executable = true ∨ n ∈ file.targets fnmatch md5 ((files ++ [file]).map fun f => f.entry md5)) := by
      intro n i hi
      rw [hafter, lookup_makeExecutable targets_mem_writtenFile] at hi
      obtain ⟨j, hj, rfl⟩ := Option.map_eq_some_iff.mp hi
      refine ⟨j, hj, ?_⟩
      rw [← htargets n]
      by_cases hn : n ∈ file.targets fnmatch md5 (writtenFile md5 dir file).keys
      · rw [if_pos hn]
        exact ⟨rfl, iff_of_true rfl (Or.inr hn)⟩
      · rw [if_neg hn]
        exact ⟨rfl, (or_iff_left hn).symm⟩
    refine ⟨hnames, fun n i hi => ?_, fun n i hi => ?_⟩
    · obtain ⟨j, hj, hcontent, _⟩ := hlookup n i hi
      rw [← hcontent]
      exact (h.lookup_written hj).1
    · obtain ⟨j, hj, _, hexecutable⟩ := hlookup n i hi
      rw [hexecutable, (h.lookup_written hj).2, madeExecutable_concat, and_iff_right hrunnable]
  · have hafter : afterFile fnmatch md5 dir file = writtenFile md5 dir file := if_neg hrunnable
    refine ⟨hnames, fun n i hi => ?_, fun n i hi => ?_⟩
    · rw [hafter] at hi
      exact (h.lookup_written hi).1
    · rw [hafter] at hi
      rw [(h.lookup_written hi).2, madeExecutable_concat]
      exact (or_iff_left fun hc => hrunnable hc.1).symm

/-- **The directory behind some files.** -/
theorem filled_afterFiles (files : List PreInjectFile) : Filled fnmatch md5 files (afterFiles fnmatch md5 files) := by
  induction files using List.reverseRecOn with
  | nil => exact filled_empty
  | append_singleton files file ih =>
      rw [afterFiles, List.foldl_append]
      exact ih.after

/-! ## 6. Every file arrives -/

/-- **When every file arrives**: no byte of a name means anything to the shell, no name is too long, files that share a
    name have the same bytes, and what is made executable is what is runnable. -/
structure Harmless (fnmatch : Word → Str → Bool) (md5 : Md5) (files : List PreInjectFile) : Prop where
  clean : ∀ f ∈ files, f.Clean md5
  short : ∀ f ∈ files, (f.entry md5).length ≤ nameMax
  agree : ∀ f ∈ files, ∀ g ∈ files, f.entry md5 = g.entry md5 → f.bytes = g.bytes
  executable : ∀ f ∈ files, f.runnable = true ↔ MadeExecutable fnmatch md5 files (f.entry md5)

/-- **Files with different names are harmless**, when the shell takes each name as it stands and as no pattern. -/
theorem harmless_of_nodup {files : List PreInjectFile} (hclean : ∀ f ∈ files, f.Clean md5)
    (hshort : ∀ f ∈ files, (f.entry md5).length ≤ nameMax)
    (hpattern : ∀ f ∈ files, isPattern (Sh.bare (f.path md5)) = false)
    (hnodup : (files.map fun f => f.entry md5).Nodup) : Harmless fnmatch md5 files := by
  have hinj : ∀ f ∈ files, ∀ g ∈ files, f.entry md5 = g.entry md5 → f = g := fun f hf g hg hentry =>
    List.inj_on_of_nodup_map hnodup hf hg hentry
  have htargets : ∀ f ∈ files, ∀ names, f.targets fnmatch md5 names = [f.entry md5] := fun f hf names =>
    if_neg fun hc => Bool.false_ne_true ((hpattern f hf).symm.trans hc.1)
  refine ⟨hclean, hshort, fun f hf g hg hentry => by rw [hinj f hf g hg hentry], fun f hf => ?_⟩
  constructor
  · intro hrunnable
    obtain ⟨front, back, hsplit⟩ := List.append_of_mem hf
    refine ⟨front, f, back, hsplit, hrunnable, ?_⟩
    rw [htargets f hf]
    exact List.mem_cons_self
  · intro h
    obtain ⟨front, g, back, hsplit, hrunnable, hname⟩ := h
    have hg : g ∈ files := by
      rw [hsplit]
      exact List.mem_append_right front List.mem_cons_self
    rw [htargets g hg] at hname
    rw [hinj f hf g hg (List.mem_singleton.mp hname)]
    exact hrunnable

/-- What the mounts of the files find. -/
def Found (fnmatch : Word → Str → Bool) (md5 : Md5) (files : List PreInjectFile) : Prop :=
  ∀ f ∈ files, leftAt fnmatch (files.flatMap fun f => f.commands md5) (f.path md5) = some ⟨f.bytes, f.runnable⟩

theorem leftAt_path {files : List PreInjectFile} (hvalid : ∀ f ∈ files, f.Valid) (file : PreInjectFile) :
    leftAt fnmatch (files.flatMap fun f => f.commands md5) (file.path md5) =
      (afterFiles fnmatch md5 (files.takeWhile fun f => f.short md5)).lookup (file.entry md5) := by
  have hnames : ∀ n ∈ (∅ : Dir), IsEntry n := fun n hn => absurd hn (AList.notMem_empty n)
  rw [leftAt, entryOf_path.1, Option.bind_some, run_files hnames hvalid]
  rfl

/-- **The mounts find their files** when the commands are those that are meant. -/
theorem found_iff {files : List PreInjectFile} (hvalid : ∀ f ∈ files, f.Valid) :
    Found fnmatch md5 files ↔ (∀ f ∈ files, (f.entry md5).length ≤ nameMax) ∧
      (∀ f ∈ files, ∀ g ∈ files, f.entry md5 = g.entry md5 → f.bytes = g.bytes) ∧
      ∀ f ∈ files, f.runnable = true ↔ MadeExecutable fnmatch md5 files (f.entry md5) := by
  constructor
  · intro h
    have hshort : ∀ f ∈ files, (f.entry md5).length ≤ nameMax := by
      intro f hf
      have hfound := h f hf
      rw [leftAt_path hvalid] at hfound
      obtain ⟨g, hg, hentry⟩ := ((filled_afterFiles _).names (f.entry md5)).mp
        (AList.lookup_isSome.mp (Option.isSome_iff_exists.mpr ⟨_, hfound⟩))
      have hshort : g.short md5 = true := List.mem_takeWhile_imp hg
      rw [← hentry]
      exact of_decide_eq_true hshort
    have hall : (files.takeWhile fun f => f.short md5) = files :=
      List.takeWhile_eq_self_iff.mpr fun f hf => decide_eq_true (hshort f hf)
    have hlookup : ∀ f ∈ files,
        (afterFiles fnmatch md5 files).lookup (f.entry md5) = some ⟨f.bytes, f.runnable⟩ := by
      intro f hf
      have hfound := h f hf
      rwa [leftAt_path hvalid, hall] at hfound
    refine ⟨hshort, fun f hf g hg hentry => ?_, fun f hf => ?_⟩
    · have hsame := hlookup f hf
      rw [hentry, hlookup g hg] at hsame
      exact (congrArg Injected.content (Option.some.inj hsame)).symm
    · exact (filled_afterFiles files).executable _ _ (hlookup f hf)
  · intro h f hf
    obtain ⟨hshort, hagree, hexecutable⟩ := h
    have hall : (files.takeWhile fun f => f.short md5) = files :=
      List.takeWhile_eq_self_iff.mpr fun f hf => decide_eq_true (hshort f hf)
    have hfilled : Filled fnmatch md5 files (afterFiles fnmatch md5 files) := filled_afterFiles files
    have hthere : f.entry md5 ∈ afterFiles fnmatch md5 files := (hfilled.names _).mpr ⟨f, hf, rfl⟩
    obtain ⟨i, hi⟩ := Option.isSome_iff_exists.mp (AList.lookup_isSome.mpr hthere)
    obtain ⟨g, hg, hentry, hbytes⟩ := hfilled.content _ i hi
    have hcontent : i.content = f.bytes := by rw [← hbytes, hagree g hg f hf hentry]
    have hflag : i.executable = f.runnable :=
      Bool.eq_iff_iff.mpr ((hfilled.executable _ i hi).trans (hexecutable f hf).symm)
    rw [leftAt_path hvalid, hall, hi, ← hcontent, ← hflag]

/-- The script of the container that is added is what is read. -/
theorem addedLines_eq (md5 : Md5) (component : Component) (template : PodTemplate) :
    addedLines md5 component template = Sh.read (injectScript md5 component.spec.preInjectedFiles) ∧
      (preparePreInjectedFiles md5 component template).2.2 =
        component.spec.preInjectedFiles.map fun f => f.mount md5 := by
  by_cases hnone : component.spec.preInjectedFiles = []
  · have hprepare : preparePreInjectedFiles md5 component template = (template, [], []) := by
      rw [preparePreInjectedFiles, hnone]
      rfl
    rw [addedLines, addedContainers, hprepare, hnone, List.drop_length]
    exact ⟨rfl, rfl⟩
  · have hprepare : preparePreInjectedFiles md5 component template =
        ({ template with
            initContainers := template.initContainers ++ [injectContainer md5 component.spec.preInjectedFiles] },
          [⟨filesVolume, .emptyDir false⟩], component.spec.preInjectedFiles.map fun f => f.mount md5) :=
      if_neg (Nat.not_le.mpr (List.length_pos_iff.mpr hnone))
    have hscript : (injectContainer md5 component.spec.preInjectedFiles).script =
        some (injectScript md5 component.spec.preInjectedFiles) := by
      rw [Container.script, injectContainer]
      exact if_pos ⟨rfl, rfl⟩
    rw [addedLines, addedContainers, hprepare, List.drop_left]
    refine ⟨?_, rfl⟩
    rw [List.mapM_cons, List.mapM_nil, hscript, Option.bind_some]
    cases Sh.read (injectScript md5 component.spec.preInjectedFiles) with
    | none => rfl
    | some lines => simp

/-- **Every file arrives, and nothing else runs, exactly when the files are harmless.** -/
theorem delivers_iff (md5 : Md5) (fnmatch : Word → Str → Bool) (files : AcceptedFiles) (template : PodTemplate) :
    Delivers fnmatch md5 files.component template ↔ Harmless fnmatch md5 files.component.spec.preInjectedFiles := by
  have hvalid : ∀ f ∈ files.component.spec.preInjectedFiles, f.Valid := files.valid
  obtain ⟨hlines, hmounts⟩ := addedLines_eq md5 files.component template
  have hzip : ∀ lines, (∀ x ∈ files.component.spec.preInjectedFiles.zip
        (preparePreInjectedFiles md5 files.component template).2.2,
        leftAt fnmatch lines (filesDir ++ x.2.subPath) = some ⟨x.1.bytes, x.1.runnable⟩) ↔
      ∀ f ∈ files.component.spec.preInjectedFiles, leftAt fnmatch lines (f.path md5) = some ⟨f.bytes, f.runnable⟩ := by
    intro lines
    rw [hmounts, ← List.map_prod_left_eq_zip, List.forall_mem_map]
    rfl
  constructor
  · intro h
    obtain ⟨lines, hread, rfl, hleaves⟩ := h
    have hclean := (read_injectScript_iff hvalid).mp (hlines.symm.trans hread)
    obtain ⟨hshort, hagree, hexecutable⟩ := (found_iff hvalid).mp ((hzip _).mp hleaves)
    exact ⟨hclean, hshort, hagree, hexecutable⟩
  · intro h
    have hread := (read_injectScript_iff hvalid).mpr h.clean
    have hfound := (found_iff hvalid).mpr ⟨h.short, h.agree, h.executable⟩
    exact ⟨_, hlines.trans hread, rfl, (hzip _).mpr hfound⟩

/-- The hashes of what is written of `hello` and of `date`. -/
def codeMd5 : Md5 := fun code =>
  if code = str "aGVsbG8=" then #v[7, 51, 53, 24, 121, 178, 250, 155, 208, 92, 124, 163, 6, 21, 41, 192]
  else #v[31, 183, 141, 113, 200, 226, 28, 86, 227, 183, 13, 220, 243, 81, 39, 159]

/-- A text, and a command of one's own. -/
def plainFiles : Component where
  ns := str "shop"
  name := str "web"
  spec :=
    { labels := ∅
      workloadType := none
      replicas := none
      volumes := []
      preInjectedFiles :=
        [⟨str "hello", false, str "/etc/motd", true, false⟩, ⟨str "date", false, str "/usr/bin/now", false, true⟩]
      rest := [] }

/-- Both arrive. -/
theorem delivers_plain : Delivers (fun _ _ => false) codeMd5 plainFiles ⟨[], [], []⟩ := by
  refine (delivers_iff codeMd5 (fun _ _ => false) ⟨plainFiles, by decide, by decide⟩ ⟨[], [], []⟩).mpr ?_
  have hclean : ∀ f ∈ plainFiles.spec.preInjectedFiles, (f.baseName codeMd5).all Sh.isPlain = true := by decide
  exact harmless_of_nodup (fun f hf => List.all_eq_true.mp (hclean f hf)) (by decide) (by decide) (by decide)

/-- A file with a blank in its path. -/
def spaced : AcceptedFiles where
  component :=
    { ns := str "shop"
      name := str "web"
      spec :=
        { labels := ∅
          workloadType := none
          replicas := none
          volumes := []
          preInjectedFiles := [⟨str "hello", false, str "/etc/a b", false, false⟩]
          rest := [] } }
  accepted := by decide
  valid := by
    intro f hf
    rw [List.mem_singleton.mp hf]
    exact fun h => absurd h Bool.false_ne_true

/-- **It does not arrive**, whatever its hash is. -/
theorem delivers_fails : ¬ ∃ (md5 : Md5) (fnmatch : Word → Str → Bool) (template : PodTemplate),
    Delivers fnmatch md5 spaced.component template := by
  intro h
  obtain ⟨md5, fnmatch, template, lines, hread, rfl, _⟩ := h
  have hclean := (read_injectScript_iff spaced.valid).mp
    ((addedLines_eq md5 spaced.component template).1.symm.trans hread)
  have hbase : pathBase (str "/etc/a b") = str "a b" := by decide
  have hblank : (32 : UInt8) ∈ pathBase (str "/etc/a b") := by
    rw [hbase]
    decide
  exact absurd (hclean _ List.mem_cons_self 32 (List.mem_append_left _ hblank)) (by decide)

end Shell

end Kalm.Disks
