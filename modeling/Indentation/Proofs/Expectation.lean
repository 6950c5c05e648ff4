import Indentation.CommandLine.Run
import Indentation.Proofs.LineEnds
import Indentation.Proofs.SignatureText

/-!
# Expected verdicts

A run that detects the indentation of a file can be told which verdict is expected. What one run prints
for the file, the next one can be given: it is read back as the verdict, and as no other signature.

For that, three things fit together: the words of such a line are read as meant (`read_of_file`,
`read_of_expect`), what is detected is a verdict, so that what is written for it can be read, and a
signature that is read is compared as a value, not as a text.

## Main statements

* `read_of_expect` — what a line says that names a file and the verdict expected on it
* `run_of_expect` — what such a run does
* `run_expect` — a verdict that was printed is the expected one, and no other signature is
-/

namespace Indentation.CommandLine

/-! ## Words -/

section Words

variable {α : Type} {g : Grammar α} {w : String} {ws : List String} {t : Token α}
  {ts : List (Token α)}

theorem tokens_cons (hw : w ≠ "--") (ht : classify g w = .ok t) (hts : tokens g ws = .ok ts) :
    tokens g (w :: ws) = .ok (t :: ts) := by
  rw [tokens]
  · rw [ht, hts]
    rfl
  · exact hw

/-- A word that does not start with a dash is an argument. -/
theorem tokens_cons_of_plain (hw : w.toList.head? ≠ some '-') (hts : tokens g ws = .ok ts) :
    tokens g (w :: ws) = .ok (.argument w :: ts) := by
  refine tokens_cons ?_ (classify_of_plain g hw) hts
  rintro rfl
  exact hw rfl

/-- The first argument is taken for the positional word. -/
theorem consume_argument {set : String → α → α} (hset : g.positional = .one set) {r : Reading α}
    (hr : r.taken = false) {rest : List (String × Token α)}
    (hrest : ∀ v tail, rest ≠ (v, .separator) :: tail) :
    consume g r ((w, .argument w) :: rest)
      = consume g { r with values := set w r.values, taken := true } rest := by
  rw [consume, if_neg (by rw [hr]; exact Bool.false_ne_true)]
  split
  · next h => cases hset.symm.trans h
  · next h => cases hset.symm.trans h
  · next h =>
    cases hset.symm.trans h
    split
    · exact absurd rfl (hrest _ _)
    · rfl

end Words

/-! ## Lines that name a file -/

/-- The names of the flag that skips documentation. -/
def skipNames : List String := ["--skip-doc-comments", "--skip-pod"]

/-- The flag that skips documentation, as a word. -/
def skipToken : Token DetectArgs := optToken (skipFlag fun a => { a with skipDocs := true }) none

/-- The option that gives the expected verdict, as a word. -/
def expectToken : Token DetectArgs :=
  optToken (.setting ⟨"--expect", fun s a => { a with expected := some s }⟩) none

section Lines

variable {file word : String} {flags : List String}

theorem tokens_flags (hflags : ∀ w ∈ flags, w ∈ skipNames) :
    tokens detectGrammar flags = .ok (flags.map fun _ => skipToken) := by
  induction flags with
  | nil => rfl
  | cons w flags ih =>
    obtain ⟨hw, hflags⟩ := List.forall_mem_cons.mp hflags
    have hname : w ≠ "--" ∧ classify detectGrammar w = .ok skipToken := by
      rcases List.mem_cons.mp hw with rfl | hw
      · exact ⟨by decide, rfl⟩
      · rw [List.mem_singleton.mp hw]
        exact ⟨by decide, rfl⟩
    exact tokens_cons hname.1 hname.2 (ih hflags)

/-- However often it is given, the flag does one thing. -/
theorem consume_flags (r : Reading DetectArgs) (flags : List String) :
    consume detectGrammar r (flags.zip (flags.map fun _ => skipToken)) = .ok
      { r with values := { r.values with skipDocs := r.values.skipDocs || !flags.isEmpty } } := by
  induction flags generalizing r with
  | nil =>
    rw [List.isEmpty_nil, Bool.not_true, Bool.or_false]
    rfl
  | cons w flags ih =>
    rw [List.map_cons, List.zip_cons_cons]
    show consume detectGrammar { r with values := { r.values with skipDocs := true } }
      (flags.zip (flags.map fun _ => skipToken)) = _
    rw [ih]
    simp

/-- A word that names a file at the start of a line. -/
structure IsFileName (w : String) : Prop where
  ne_empty : w ≠ ""
  not_option : w.toList.head? ≠ some '-'
  not_command : w ∉ commandNames

theorem IsFileName.namesFile_cons (h : IsFileName file) (words : List String) :
    namesFile (file :: words) = true := by
  rw [namesFile_cons_of_plain h.not_option]
  simp [h.ne_empty, h.not_command]

/-- A line that names a file asks for detection in it, with what is read behind the name. -/
theorem read_cons (hfile : IsFileName file) {words : List String} {ts : List (Token DetectArgs)}
    (hts : tokens detectGrammar words = .ok ts)
    (hrest : ∀ v tail, words.zip ts ≠ (v, .separator) :: tail) {a : DetectArgs}
    (ha : a.path = some file)
    (hwords : consume detectGrammar { values := { path := some file }, taken := true }
      (words.zip ts) = .ok { values := a, taken := true }) :
    Command.read (file :: words) = .ok (.detect file a.json a.expected a.skipDocs) := by
  have hread : detectGrammar.read {} (file :: words) = .ok (a, []) := by
    rw [Grammar.read, tokens_cons_of_plain hfile.not_option hts]
    show (consume detectGrammar { values := {} } ((file, .argument file) :: words.zip ts)).bind _ = _
    rw [consume_argument rfl rfl hrest]
    show (consume detectGrammar { values := { path := some file }, taken := true }
      (words.zip ts)).bind _ = _
    rw [hwords]
    simp [Except.bind, detectGrammar, ha]
  rw [Command.read, if_pos (hfile.namesFile_cons words), readAs, hread]
  show Except.ok (Command.detect (a.path.getD "") a.json a.expected a.skipDocs) = _
  rw [ha]
  rfl

theorem zip_flags_ne_separator (v : String) (tail : List (String × Token DetectArgs)) :
    flags.zip (flags.map fun _ => skipToken) ≠ (v, .separator) :: tail := by
  intro h
  cases flags with
  | nil => cases h
  | cons w flags => cases congrArg Prod.snd (List.cons.inj h).1

theorem read_of_file (hfile : IsFileName file) (hflags : ∀ w ∈ flags, w ∈ skipNames) :
    Command.read (file :: flags) = .ok (.detect file false none (!flags.isEmpty)) :=
  read_cons hfile (tokens_flags hflags) zip_flags_ne_separator rfl (consume_flags _ flags)

theorem read_of_expect (hfile : IsFileName file) (hword : word.toList.head? ≠ some '-')
    (hflags : ∀ w ∈ flags, w ∈ skipNames) :
    Command.read (file :: "--expect" :: word :: flags)
      = .ok (.detect file false (some word) (!flags.isEmpty)) := by
  have htokens : tokens detectGrammar ("--expect" :: word :: flags)
      = .ok (expectToken :: .argument word :: flags.map fun _ => skipToken) :=
    tokens_cons (by decide) rfl (tokens_cons_of_plain hword (tokens_flags hflags))
  refine read_cons hfile htokens (fun v tail h => ?_) rfl
    (consume_flags { values := { path := some file, expected := some word }, taken := true } flags)
  cases congrArg Prod.snd (List.cons.inj h).1

end Lines

/-! ## Detection -/

section Detection

variable {tree : FileTree} {cwd : Location} {path : Path} {skipDocs : Bool} {s : Signature}

theorem read_of_detectFile (h : detectFile skipDocs "utf-8" tree cwd path = .ok s) :
    ∃ bytes, tree.read cwd path = .ok bytes ∧ detectBytes skipDocs bytes = .ok s := by
  cases hread : tree.read cwd path with
  | error e =>
    rw [detectFile, hread] at h
    cases h
  | ok bytes =>
    rw [detectFile_of_read hread] at h
    cases hverdict : detectBytes skipDocs bytes with
    | error e =>
      rw [hverdict] at h
      cases h
    | ok s' =>
      rw [hverdict] at h
      obtain rfl := Except.ok.inj h
      exact ⟨bytes, rfl, hverdict⟩

/-- The empty path leads to the working directory. -/
theorem entry?_of_read_empty {bytes : List UInt8}
    (h : tree.read cwd (Path.ofString "") = .ok bytes) : tree.entry? cwd = some (.file bytes) := by
  have hpath : Path.ofString "" = ⟨"", []⟩ := by decide
  have hfollow : tree.followPath false cwd ⟨"", []⟩ = .ok cwd := by
    rw [FileTree.followPath, if_neg (by decide)]
    show tree.follow false FileTree.maxLinks cwd [] = _
    rw [FileTree.follow]
  rw [hpath, FileTree.read, hfollow] at h
  dsimp only at h
  split at h
  · next hentry => rw [hentry, Except.ok.inj h]
  · cases h
  · cases h

end Detection

/-! ## Runs -/

section Runs

variable {i : Input} {file : String} {flags : List String} {s t : Signature}

/-- What is detected in a file is printed. -/
theorem run_of_read {expected : Option String} {skipDocs : Bool} {e : Option Signature}
    (hfile : file.toList.head? ≠ some '-')
    (hread : Command.read i.words = .ok (.detect file false expected skipDocs))
    (he : (expected.mapM fun e => Signature.parse e.toList) = .ok e)
    (hs : detectFile skipDocs "utf-8" i.tree i.cwd (Path.ofString file) = .ok s) :
    run i = answer i.tree false e s := by
  have hdash : file ≠ "-" := by
    rintro rfl
    exact hfile rfl
  rw [run, hread]
  show runDetect i file false expected skipDocs = _
  rw [runDetect, he]
  dsimp only
  rw [verdict, if_neg hdash, hs]

theorem head?_toString_ne_dash (s : Signature) : s.toString.toList.head? ≠ some '-' := by
  have hletter : s.style.letter ≠ '-' := by cases s.style <;> decide
  have hhead : s.render.head? = some s.style.letter := by
    unfold Signature.render
    split <;> rfl
  rw [Signature.toString, String.toList_ofList, hhead]
  exact fun h => hletter (Option.some.inj h)

/-- The word written for a readable signature is read as it. -/
theorem mapM_parse_toString (h : t.IsReadable) :
    ((some t.toString).mapM fun e => Signature.parse e.toList) = .ok (some t) := by
  show (Signature.parse t.toString.toList).map some = _
  rw [h.parse_toString]
  rfl

theorem run_of_file (hfile : IsFileName file) (hflags : ∀ w ∈ flags, w ∈ skipNames)
    (hs : detectFile (!flags.isEmpty) "utf-8" i.tree i.cwd (Path.ofString file) = .ok s) :
    run { i with words := file :: flags } = .print i.tree .success (line s.toString) :=
  run_of_read (i := { i with words := file :: flags }) (e := none) hfile.not_option
    (read_of_file hfile hflags) rfl hs

theorem run_of_expect (hfile : IsFileName file) (hflags : ∀ w ∈ flags, w ∈ skipNames)
    (hs : detectFile (!flags.isEmpty) "utf-8" i.tree i.cwd (Path.ofString file) = .ok s)
    (ht : t.IsReadable) :
    run { i with words := file :: "--expect" :: t.toString :: flags }
      = answer i.tree false (some t) s :=
  run_of_read (i := { i with words := file :: "--expect" :: t.toString :: flags }) (e := some t)
    hfile.not_option (read_of_expect hfile (head?_toString_ne_dash t) hflags)
    (mapM_parse_toString ht) hs

/--
**A printed verdict is the expected one.**

A signature within the limit is read back from what is written for it, whatever blanks are put around
it, so no two of them are written alike. So a run that is given what an earlier run printed for a file
as the expected verdict on it ends as that run did, and one that is given any other signature prints
the verdict all the same and ends with a violation.

The file may have any name that the line does not take for an option or a command. No file is named by
the empty word, which leads to the working directory.
-/
theorem run_expect :
    (∀ (s : Signature) (b e : List Char), s.IsReadable → (∀ c ∈ b, Text.isBlank c = true) →
      (∀ c ∈ e, Text.isBlank c = true) → Signature.parse (b ++ s.render ++ e) = .ok s) ∧
    (∀ s t : Signature, s.IsReadable → t.IsReadable → s.render = t.render → s = t) ∧
    ∀ (i : Input) (file : String) (flags : List String) (s : Signature),
      (∀ bytes, i.tree.entry? i.cwd ≠ some (.file bytes)) →
      file.toList.head? ≠ some '-' → file ∉ commandNames → (∀ w ∈ flags, w ∈ skipNames) →
      detectFile (!flags.isEmpty) "utf-8" i.tree i.cwd (Path.ofString file) = .ok s →
      (Signature.decimal s.width).length ≤ Numeral.limit →
      run { i with words := file :: flags } = .print i.tree .success (line s.toString) ∧
      run { i with words := file :: "--expect" :: s.toString :: flags }
        = .print i.tree .success (line s.toString) ∧
      ∀ t : Signature, t.IsReadable → t ≠ s →
        run { i with words := file :: "--expect" :: t.toString :: flags } =
          { ending := .exit .violation, stdout := line s.toString, tree := i.tree,
            stderr := line s!"mismatch: expected {t.toString}, detected {s.toString}" } := by
  refine ⟨fun s b e hs hb he => hs.parse_append_render hb he,
    fun s t hs ht h => hs.eq_of_render_eq ht h, ?_⟩
  intro i file flags s hcwd hoption hcommand hflags hs hlimit
  obtain ⟨bytes, hread, hdetect⟩ := read_of_detectFile hs
  -- the line would take an empty word for a command, but what it leads to is no file
  have hempty : file ≠ "" := by
    rintro rfl
    exact hcwd bytes (entry?_of_read_empty hread)
  have hfile : IsFileName file := ⟨hempty, hoption, hcommand⟩
  have hreadable : s.IsReadable := ⟨Signature.isVerdict_of_detect hdetect, hlimit⟩
  refine ⟨run_of_file hfile hflags hs, ?_, fun t ht hne => ?_⟩
  · rw [run_of_expect hfile hflags hs hreadable]
    exact if_pos rfl
  · rw [run_of_expect hfile hflags hs ht]
    exact if_neg hne.symm

/-- A file that is indented by tabs, once the block of documentation in it is skipped. -/
theorem run_expect_pod :
    let i : Input := {
      words := []
      tree := ⟨[(["x.pl"], .file [61, 112, 111, 100, 10, 97, 10, 32, 32, 98, 10, 61, 99, 117, 116, 10,
        97, 10, 9, 98, 10])]⟩ }
    (Signature.mixed 10).IsReadable ∧ Signature.parse " m10\n".toList = .ok (.mixed 10) ∧
      detectFile true "utf-8" i.tree i.cwd (Path.ofString "x.pl") = .ok (.tabs 8) ∧
      run { i with words := ["x.pl", "--skip-pod"] } = .print i.tree .success (line "t8") ∧
      run { i with words := ["x.pl", "--expect", "t8", "--skip-pod"] }
        = .print i.tree .success (line "t8") ∧
      (run { i with words := ["x.pl", "--expect", "s8", "--skip-pod"] }).ending
        = .exit .violation := by
  intro i
  have hten : (Signature.decimal 10).length = 2 := by cbv
  have height : (Signature.decimal 8).length = 1 := by cbv
  have hmixed : (Signature.mixed 10).IsReadable :=
    ⟨.inr (.of_pos (by decide) (by decide)), hten ▸ by decide⟩
  have hspaces : (Signature.spaces 8).IsReadable :=
    ⟨.inr (.of_pos (by decide) (by decide)), height ▸ by decide⟩
  have hblank : ∀ c ∈ [' '], Text.isBlank c = true := List.forall_mem_singleton.mpr rfl
  have hbreak : ∀ c ∈ ['\n'], Text.isBlank c = true := List.forall_mem_singleton.mpr rfl
  have hdetect : detectFile true "utf-8" i.tree i.cwd (Path.ofString "x.pl") = .ok (.tabs 8) := by
    cbv
  obtain ⟨hparse, -, hrun⟩ := run_expect
  obtain ⟨hprint, hmatch, hother⟩ := hrun i "x.pl" ["--skip-pod"] (.tabs 8) (by rintro bytes ⟨⟩)
    (by decide) (by decide) (by decide) hdetect (height ▸ by decide)
  have hviolation := hother (.spaces 8) hspaces (by decide)
  have htext : (Signature.tabs 8).toString = "t8" := by cbv
  have hother : (Signature.spaces 8).toString = "s8" := by cbv
  rw [htext] at hprint hmatch
  rw [hother] at hviolation
  exact ⟨hmixed, hparse _ _ _ hmixed hblank hbreak, hdetect, hprint, hmatch,
    congrArg Outcome.ending hviolation⟩

end Runs

end Indentation.CommandLine
