import Indentation.Detect.File
import Indentation.Proofs.Line
import Indentation.Proofs.Report

/-!
# Line ends

Which characters end the lines of a text, and how many of them stand behind one another, does not
matter. Two texts that differ in nothing else (`SameUpToBreaks`) have the same lines, and so have a
text and the same text with more line breaks at its end.

A file is read in two ways. One gives its bytes to detection as they are, the other unifies the line
ends first. The texts that come of it differ in their line breaks alone, so the verdict is the same.

## Main statements

* `splitLines_of_sameUpToBreaks` — runs of line breaks can be replaced by others
* `splitLines_append_of_breaks` — line breaks at the end of a text do not matter
* `sameUpToBreaks_unifyLineEnds` — unifying line ends replaces runs of line breaks by others
* `detect_of_lineEnds` — detection in texts, in files and in scans does not depend on line ends
-/

namespace Indentation

namespace Line

/-! ## Runs of line breaks -/

/-- Two texts that differ only in their line breaks: where the one has a run of them, the other has
some run in its place. Runs that touch are one run, so it does not matter where a run is cut. -/
inductive SameUpToBreaks : List Char → List Char → Prop where
  | nil : SameUpToBreaks [] []
  | char {c : Char} (hc : isEol c = false) {s t : List Char} (h : SameUpToBreaks s t) :
    SameUpToBreaks (c :: s) (c :: t)
  | breaks {a b : List Char} (ha : a ≠ []) (hb : b ≠ []) (heol : ∀ c ∈ a, isEol c = true)
    (heol' : ∀ c ∈ b, isEol c = true) {s t : List Char} (h : SameUpToBreaks s t) :
    SameUpToBreaks (a ++ s) (b ++ t)

/-- **Runs of line breaks can be replaced by others.** -/
theorem splitLines_of_sameUpToBreaks {s t : List Char} (h : SameUpToBreaks s t) :
    splitLines s = splitLines t := by
  induction h with
  | nil => rfl
  | char hc _ ih => rw [splitLines_cons, splitLines_cons, ih]
  | breaks ha hb heol heol' _ ih =>
    rw [splitLines_breaks_append ha heol, splitLines_breaks_append hb heol', ih]

/-! ## Line breaks at the end -/

/-- A line that holds nothing yet is no different from none. -/
theorem consChar_blank (c : Char) : consChar c [[]] = consChar c [] := by
  unfold consChar
  cases isEol c <;> rfl

/-- **Line breaks at the end of a text do not matter**, unless there is nothing else. -/
theorem splitLines_append_of_breaks {s r : List Char} (hs : s ≠ [])
    (hr : ∀ c ∈ r, isEol c = true) : splitLines (s ++ r) = splitLines s := by
  induction s with
  | nil => exact absurd rfl hs
  | cons c s ih =>
    rw [List.cons_append, splitLines_cons, splitLines_cons]
    by_cases hnil : s = []
    · -- the last character before the breaks is put in front of what they leave
      rw [hnil, List.nil_append, splitLines_nil]
      by_cases hr' : r = []
      · rw [hr', splitLines_nil]
      · have hblank : splitLines r = [[]] := by
          have hbreaks := splitLines_breaks_append hr' hr []
          rwa [List.append_nil] at hbreaks
        rw [hblank, consChar_blank]
    · rw [ih hnil]

/-! ## Unified line ends -/

namespace SameUpToBreaks

variable {b c : Char} {s t : List Char}

/-- A line break takes the place of another. -/
theorem cons_cons (hb : isEol b = true) (hc : isEol c = true) (h : SameUpToBreaks s t) :
    SameUpToBreaks (b :: s) (c :: t) :=
  breaks (List.cons_ne_nil b []) (List.cons_ne_nil c []) (by simp [hb]) (by simp [hc]) h

theorem cons (c : Char) (h : SameUpToBreaks s t) : SameUpToBreaks (c :: s) (c :: t) := by
  cases hc : isEol c with
  | false => exact h.char hc
  | true => exact h.cons_cons hc hc

/-- A line break in front of a run of line breaks is part of that run. -/
theorem cons_right (hb : isEol b = true) (hc : isEol c = true) (h : SameUpToBreaks (b :: s) t) :
    SameUpToBreaks (b :: s) (c :: t) := by
  generalize hs : b :: s = s' at h
  cases h with
  | nil => cases hs
  | char hchar =>
    obtain ⟨rfl, -⟩ := List.cons.inj hs
    rw [hb] at hchar
    cases hchar
  | breaks ha _ heol heol' h =>
    exact h.breaks ha (List.cons_ne_nil c _) heol (List.forall_mem_cons.mpr ⟨hc, heol'⟩)

end SameUpToBreaks

/-- **Unifying line ends replaces runs of line breaks by others.** -/
theorem sameUpToBreaks_unifyLineEnds (s : List Char) : SameUpToBreaks (Text.unifyLineEnds s) s := by
  induction s with
  | nil => exact .nil
  | cons c s ih =>
    rw [Text.unifyLineEnds_cons]
    split
    · next hreturn =>
      subst hreturn
      split
      · next hfeed =>
        -- the line feed that follows is the first character of both texts
        obtain ⟨s, rfl⟩ : ∃ s', s = '\n' :: s' := List.head?_eq_some_iff.mp hfeed
        rw [Text.unifyLineEnds_cons, if_neg (by decide)] at ih ⊢
        exact ih.cons_right rfl rfl
      · exact ih.cons_cons rfl rfl
    · exact ih.cons c

theorem ofText_of_sameUpToBreaks {s t : List Char} (h : SameUpToBreaks s t) :
    ofText s = ofText t := by
  rw [ofText, ofText, splitLines_of_sameUpToBreaks h]

theorem ofText_append_of_breaks {s r : List Char} (hs : s ≠ []) (hr : ∀ c ∈ r, isEol c = true) :
    ofText (s ++ r) = ofText s := by
  rw [ofText, ofText, splitLines_append_of_breaks hs hr]

end Line

/-! ## Detection in texts and files -/

/-- Detection looks at the lines of a text alone. -/
theorem detect_of_ofText {s t : List Char} (h : Line.ofText s = Line.ofText t) (skipDocs : Bool) :
    detect skipDocs s = detect skipDocs t := by
  rw [detect, detect, h]

/-- To unify the line ends of a file in UTF-8 does not change the verdict on it. -/
theorem detectFile_of_read {t : FileTree} {cwd : Location} {path : Path} {bytes : List UInt8}
    (hread : t.read cwd path = .ok bytes) (skipDocs : Bool) :
    detectFile skipDocs "utf-8" t cwd path = (detectBytes skipDocs bytes).mapError .overlong := by
  have hencoding : Text.Encoding.ofName "utf-8" = .ok .utf8 := by decide
  have hlines := Line.ofText_of_sameUpToBreaks (Line.sameUpToBreaks_unifyLineEnds (Text.Utf8.decode bytes))
  unfold detectFile detectBytes
  simp only [hread, hencoding]
  rw [← detect_of_ofText hlines skipDocs]
  rfl

/-! ## Detection in scans -/

namespace Scan

/-- What a directory entry leads a scan to is a file. -/
theorem entry?_of_source? {c : ScanConfig} {t : FileTree} {root l : Location} {names : List String}
    {e : Entry} (h : c.source? t root names e = some l) : ∃ bytes, t.entry? l = some (.file bytes) := by
  unfold ScanConfig.source? at h
  extract_lets isLink at h
  split at h
  · cases h
  · split at h
    · cases h
    · split at h
      · next bytes hentry =>
        split at h
        · exact ⟨bytes, Option.some.inj h ▸ hentry⟩
        · cases h
      · cases h

/-- What a scan looks at are files. -/
theorem entry?_of_mem_sources {c : ScanConfig} {t : FileTree} {cwd l : Location}
    (h : l ∈ c.sources t cwd) : ∃ bytes, t.entry? l = some (.file bytes) := by
  unfold ScanConfig.sources at h
  split at h
  · cases h
  · split at h
    · next bytes hentry =>
      rw [List.mem_singleton.mp h]
      exact ⟨bytes, hentry⟩
    · obtain ⟨⟨names, e⟩, -, he⟩ := List.mem_filterMap.mp h
      exact entry?_of_source? he
    · cases h

/-- A path that leads to a file reads what a scan reads there. -/
theorem read_of_followPath {t : FileTree} {cwd l : Location} {path : Path} {bytes : List UInt8}
    (hentry : t.entry? l = some (.file bytes)) (hpath : t.followPath false cwd path = .ok l) :
    t.read cwd path = .ok (bytesAt t l) := by
  simp only [FileTree.read, hpath, bytesAt, hentry]

/-- An entry of a report lists the file at a location, and says of it what detection in that file
says, whatever path leads to it. -/
def Agrees (skipDocs : Bool) (t : FileTree) (base l : Location) (e : Finding) : Prop :=
  e.path = listedPath base l ∧ ∀ cwd path, t.followPath false cwd path = .ok l →
    detectFile skipDocs "utf-8" t cwd path = .ok e.signature

/-- **The entries of a report are the verdicts on the files that the scan looks at**, in some order. -/
theorem agrees_of_reportAt {c : ScanConfig} {t : FileTree} {root : Location} {r : Report}
    (h : reportAt c t root = .ok r) :
    ∃ found, found.Perm r.files ∧ List.Forall₂
      (Agrees c.skipDocs t (if t.entry? root = some .directory then root else root.dropLast))
      ({ c with root := FileTree.pathOf root }.sources t []) found := by
  unfold reportAt at h
  extract_lets base c' at h
  obtain ⟨found, hfound, rfl⟩ := exists_of_reportOn h
  refine ⟨found, (Report.files_ofFindings_perm _ found).symm, ?_⟩
  have hjudged := List.forall₂_map_left_iff.mp (forall₂_of_findings hfound)
  have hfiles : ∀ l ∈ c'.sources t [], ∃ bytes, t.entry? l = some (.file bytes) :=
    fun l hl => entry?_of_mem_sources hl
  refine ((List.forall₂_and_left _ _).mpr ⟨hfiles, hjudged⟩).imp ?_
  rintro l e ⟨⟨bytes, hentry⟩, hpath, hverdict⟩
  refine ⟨hpath, fun cwd path hfollow => ?_⟩
  rw [detectFile_of_read (read_of_followPath hentry hfollow)]
  exact congrArg (Except.mapError DetectFileError.overlong) hverdict

end Scan

/--
**Detection does not depend on line ends.**

Texts whose runs of line breaks differ have the same lines and the same verdict, and so have a text and
the same text with more line breaks behind it. So it does not matter for a file whether its line ends
are unified before detection: detection in the file gives the verdict on its bytes, or fails as that
does, and a scan reports the same verdict for it.
-/
theorem detect_of_lineEnds :
    (∀ s t : List Char, Line.SameUpToBreaks s t →
      Line.ofText s = Line.ofText t ∧ ∀ skipDocs, detect skipDocs s = detect skipDocs t) ∧
    (∀ s r : List Char, s ≠ [] → (∀ c ∈ r, Line.isEol c = true) →
      Line.ofText (s ++ r) = Line.ofText s ∧
        ∀ skipDocs, detect skipDocs (s ++ r) = detect skipDocs s) ∧
    (∀ (t : FileTree) (cwd : Location) (path : Path) (bytes : List UInt8),
      t.read cwd path = .ok bytes → ∀ skipDocs, detectFile skipDocs "utf-8" t cwd path
        = (detectBytes skipDocs bytes).mapError .overlong) ∧
    ∀ (c : ScanConfig) (t : FileTree) (root : Location) (r : Report),
      Scan.reportAt c t root = .ok r → ∃ found, found.Perm r.files ∧ List.Forall₂
        (Scan.Agrees c.skipDocs t (if t.entry? root = some .directory then root else root.dropLast))
        ({ c with root := FileTree.pathOf root }.sources t []) found := by
  refine ⟨fun s t h => ?_, fun s r hs hr => ?_, fun t cwd path bytes hread skipDocs => ?_,
    fun c t root r h => Scan.agrees_of_reportAt h⟩
  · have hlines := Line.ofText_of_sameUpToBreaks h
    exact ⟨hlines, detect_of_ofText hlines⟩
  · have hlines := Line.ofText_append_of_breaks hs hr
    exact ⟨hlines, detect_of_ofText hlines⟩
  · exact detectFile_of_read hread skipDocs

/-- A file in which a lone return and the two characters of another system end lines, where the scan
of its directory finds it. -/
theorem detect_of_lineEnds_mixed :
    ∃ (t : FileTree) (r : Report) (found : List Finding),
      (Line.SameUpToBreaks "\r\n\na\r\r  b".toList "\ra\n  b".toList ∧
        Line.ofText "\r\n\na\r\r  b".toList = Line.ofText "\ra\n  b".toList) ∧
      Line.ofText ("a".toList ++ "\r\r\n".toList) = Line.ofText "a".toList ∧
      (t.read [] ⟨"", ["x.py"]⟩ = .ok (Text.Utf8.encode "a\r  b\r\n".toList) ∧
        detectFile false "utf-8" t [] ⟨"", ["x.py"]⟩ = .ok (.spaces 2)) ∧
      Scan.reportAt {} t [] = .ok r ∧ found.Perm r.files ∧
        List.Forall₂ (Scan.Agrees false t []) [["x.py"]] found := by
  obtain ⟨htexts, hends, hfiles, hscans⟩ := detect_of_lineEnds
  have hbytes : Text.Utf8.encode "a\r  b\r\n".toList = [97, 13, 32, 32, 98, 13, 10] := by cbv
  rw [hbytes]
  let bytes : List UInt8 := [97, 13, 32, 32, 98, 13, 10]
  let t : FileTree := ⟨[(["x.py"], .file bytes)]⟩
  have hsame : Line.SameUpToBreaks "\r\n\na\r\r  b".toList "\ra\n  b".toList := by
    refine .breaks (a := ['\r', '\n', '\n']) (b := ['\r']) ?_ ?_ ?_ ?_ (.char rfl
      (.breaks (a := ['\r', '\r']) (b := ['\n']) ?_ ?_ ?_ ?_
        (.char rfl (.char rfl (.char rfl .nil))))) <;> simp [Line.isEol]
  have hread : t.read [] ⟨"", ["x.py"]⟩ = .ok bytes := by cbv
  have hverdict : detectBytes false bytes = .ok (.spaces 2) := by cbv
  have hsources : ScanConfig.sources { root := FileTree.pathOf [] } t [] = [["x.py"]] := by cbv
  have hfound : Scan.findings false [⟨"x.py", bytes⟩] = .ok [⟨"x.py", .spaces 2⟩] := by
    simp [Scan.findings, hverdict, Except.map]
  have hreport : Scan.reportAt {} t [] = .ok (Report.ofFindings "/" [⟨"x.py", .spaces 2⟩]) := by
    have hsound := Report.sound_ofFindings "/" (by simp) (Scan.forall₂_of_findings hfound)
    refine Eq.trans ?_ (hsound.reportOn_eq hfound)
    unfold Scan.reportAt
    dsimp only
    rw [hsources]
    rfl
  obtain ⟨found, hperm, hagrees⟩ := hscans _ t [] _ hreport
  rw [hsources] at hagrees
  refine ⟨t, _, found, ⟨hsame, (htexts _ _ hsame).1⟩, (hends _ _ (by simp) (by simp [Line.isEol])).1,
    ⟨hread, ?_⟩, hreport, hperm, hagrees⟩
  rw [hfiles t [] _ bytes hread, hverdict]
  rfl

end Indentation
