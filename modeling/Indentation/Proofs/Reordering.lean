import Mathlib
import Indentation.Proofs.Report

/-!
# Orders that do not matter

Votes are counted in the order in which they are cast, and files are judged in the order in which they
are found. Neither order shows in a result.

In a histogram no signature stands twice, and two signatures are told apart by letter and width, so one
entry goes before all others wherever it stands. A report lists its files by their paths, so if these
are distinct there is one order for them; its summary counts, and counts do not depend on any order.

## Main statements

* `Histogram.isScaled_one_of_perm` — a reordered histogram has the same winner and the same verdict
* `Histogram.winner?_max` — which signature wins, in terms of counts, letters and widths
* `Report.ofFindings_eq_of_perm` — what is found in another order is reported alike
* `Report.summaryToJson_eq_of_perm` — so it is summed up, even before it is sorted
* `verdict_and_report_of_perm` — verdicts and reports do not depend on the order of what is found
-/

namespace Indentation

open Scan

/-! ## Votes -/

section Votes

variable {h h' : Histogram} {s t : Signature}

namespace Histogram

/-- A histogram in another order gives every signature the same votes. -/
theorem votes_eq_of_perm (hd : h.keys.Nodup) (hperm : h.Perm h') (s : Signature) :
    h'.votes s = h.votes s := by
  have hkeys : h.keys.Perm h'.keys := hperm.map Prod.fst
  by_cases hs : s ∈ h.keys
  · obtain ⟨⟨s', n⟩, hmem, rfl⟩ := List.mem_map.mp hs
    rw [votes_of_mem hd hmem, votes_of_mem (hkeys.nodup hd) (hperm.mem_iff.mp hmem)]
  · rw [votes_of_not_mem hs, votes_of_not_mem fun hs' => hs (hkeys.mem_iff.mpr hs')]

/-- **To reorder a histogram is to scale it by one.** -/
theorem isScaled_one_of_perm (hd : h.keys.Nodup) (hperm : h.Perm h') : IsScaled 1 h h' where
  nodup := hd
  nodup' := (hperm.map Prod.fst).nodup hd
  mem_keys_iff s := (hperm.map Prod.fst).mem_iff.symm
  votes_eq s := by rw [votes_eq_of_perm hd hperm, Int.one_mul]

/-- Votes in another order are a histogram in another order. -/
theorem isScaled_one_ofVotes {sigs sigs' : List Signature} (hperm : sigs.Perm sigs') :
    IsScaled 1 (ofVotes sigs) (ofVotes sigs') where
  nodup := nodup_keys_ofVotes sigs
  nodup' := nodup_keys_ofVotes sigs'
  mem_keys_iff s := by rw [mem_keys_ofVotes, mem_keys_ofVotes, hperm.mem_iff]
  votes_eq s := by rw [votes_ofVotes, votes_ofVotes, hperm.count_eq, Int.one_mul]

end Histogram

theorem Signature.toLex_le_of_precedes (h : s.precedes t = true) :
    toLex (s.style.letter, s.width) ≤ toLex (t.style.letter, t.width) := by
  simp only [precedes, Bool.or_eq_true, Bool.and_eq_true, decide_eq_true_eq, beq_iff_eq] at h
  rw [Prod.Lex.toLex_le_toLex]
  rcases h with hletter | ⟨hstyle, hwidth⟩
  · exact .inl hletter
  · exact .inr ⟨congrArg Style.letter hstyle, Int.le_of_lt hwidth⟩

/-- **The winner has most votes**, and of the signatures that have as many it is the first by letter
and width. -/
theorem Histogram.winner?_max (hd : h.keys.Nodup) (hs : h.winner? = some s) :
    s ∈ h.keys ∧ ∀ t ∈ h.keys, h.votes t ≤ h.votes s ∧
      (h.votes t = h.votes s →
        toLex (s.style.letter, s.width) ≤ toLex (t.style.letter, t.width)) := by
  obtain ⟨hmem, hmax⟩ := (winner?_eq_some_iff hd).mp hs
  refine ⟨hmem, fun t ht => ?_⟩
  rcases lt_or_precedes_of_not_beats (hmax t ht) with hlt | ⟨heq, htie⟩
  · exact ⟨Int.le_of_lt hlt, fun heq => absurd heq (Int.ne_of_lt hlt)⟩
  · refine ⟨Int.le_of_eq heq, fun _ => ?_⟩
    rcases htie with rfl | hprecedes
    · exact le_refl _
    · exact Signature.toLex_le_of_precedes hprecedes

end Votes

/-! ## Findings -/

namespace Scan

variable {skipDocs : Bool} {root : String} {files files' : List SourceFile} {found found' : List Finding}

theorem paths_of_judges (h : List.Forall₂ (Judges skipDocs) files found) :
    found.map Finding.path = files.map SourceFile.path := by
  induction h with
  | nil => rfl
  | cons hjudges _ ih => rw [List.map_cons, List.map_cons, ih, hjudges.1]

/-- In files in another order the same is found in another order. -/
theorem exists_findings_of_perm (hperm : files.Perm files') (h : findings skipDocs files = .ok found) :
    ∃ found', findings skipDocs files' = .ok found' ∧ found.Perm found' := by
  obtain ⟨found', hfound', hperm'⟩ := List.perm_comp_forall₂ hperm.symm (findings_eq_ok_iff.mp h)
  exact ⟨found', findings_eq_ok_iff.mpr hfound', hperm'.symm⟩

theorem reportOn_congr (h : findings skipDocs files = .ok found)
    (h' : findings skipDocs files' = .ok found')
    (hreport : Report.ofFindings root found = Report.ofFindings root found') :
    reportOn skipDocs root files = reportOn skipDocs root files' := by
  rw [reportOn, reportOn, h, h']
  simp only [Except.mapError, bind, Except.bind, hreport]

end Scan

/-! ## Reports -/

namespace Report

variable {r r' : Report} {found found' : List Finding}

/-- **The order of what is found does not matter to a report**, if no path is found twice. -/
theorem ofFindings_eq_of_perm (hd : (found.map Finding.path).Nodup) (hperm : found.Perm found')
    (root : String) : ofFindings root found = ofFindings root found' := by
  have hfiles : (ofFindings root found).files.Perm (ofFindings root found').files :=
    ((files_ofFindings_perm root found).trans hperm).trans (files_ofFindings_perm root found').symm
  have hd' : ((ofFindings root found).files.map Finding.path).Nodup :=
    ((files_ofFindings_perm root found).map Finding.path).symm.nodup hd
  have heq : (ofFindings root found).files = (ofFindings root found').files :=
    Json.eq_of_perm_of_pairwise hd' hfiles (pairwise_files_ofFindings root found)
      (pairwise_files_ofFindings root found')
  exact congrArg (Report.mk root) heq

theorem written_perm (hperm : r.files.Perm r'.files) : r.written.Perm r'.written :=
  hperm.map _

theorem known_perm (hperm : r.files.Perm r'.files) : r.known.Perm r'.known :=
  (hperm.map Finding.signature).filter _

theorem count_eq_of_perm (hperm : r.files.Perm r'.files) (w : String) : r.count w = r'.count w :=
  hperm.countP_eq _

theorem bySignature_eq_of_perm (hperm : r.files.Perm r'.files) : r.bySignature = r'.bySignature := by
  have hdistinct : r.written.eraseDups.Perm r'.written.eraseDups := by
    refine (List.perm_ext_iff_of_nodup (nodup_eraseDups _) (nodup_eraseDups _)).mpr fun w => ?_
    rw [List.mem_eraseDups, List.mem_eraseDups, (written_perm hperm).mem_iff]
  have hsorted : (r.written.eraseDups.mergeSort fun a b => a ≤ b)
      = r'.written.eraseDups.mergeSort fun a b => a ≤ b := by
    refine List.Perm.eq_of_sortedLE List.sortedLE_mergeSort List.sortedLE_mergeSort ?_
    exact (List.mergeSort_perm _ _).trans (hdistinct.trans (List.mergeSort_perm _ _).symm)
  have hcount : (fun w => (w, r.count w)) = fun w => (w, r'.count w) :=
    funext fun w => congrArg (Prod.mk w) (count_eq_of_perm hperm w)
  rw [bySignature, bySignature, hcount]
  exact congrArg _ hsorted

theorem prevailing_eq_of_perm (hperm : r.files.Perm r'.files) : r.prevailing = r'.prevailing := by
  rw [prevailing, prevailing, votes_eq, votes_eq,
    (Histogram.isScaled_one_ofVotes (known_perm hperm)).winner?_eq Int.one_pos]

/-- **The summary of a report does not depend on the order of its files.** -/
theorem summaryToJson_eq_of_perm (hperm : r.files.Perm r'.files) :
    r.summaryToJson = r'.summaryToJson := by
  rw [summaryToJson, summaryToJson, hperm.length_eq, bySignature_eq_of_perm hperm,
    prevailing_eq_of_perm hperm, unknown, unknown, count_eq_of_perm hperm]

end Report

/-- The report on files that are found in another order is the same. -/
theorem Scan.reportOn_eq_ok_iff_of_perm {skipDocs : Bool} {root : String} {files files' : List SourceFile}
    {r : Report} (hd : (files.map SourceFile.path).Nodup) (hperm : files.Perm files') :
    reportOn skipDocs root files = .ok r ↔ reportOn skipDocs root files' = .ok r := by
  have heq : ∀ {as bs : List SourceFile}, as.Perm bs → (as.map SourceFile.path).Nodup →
      reportOn skipDocs root as = .ok r → reportOn skipDocs root bs = .ok r := by
    intro as bs hperm hd hr
    obtain ⟨found, hfound, -⟩ := exists_of_reportOn hr
    obtain ⟨found', hfound', hperm'⟩ := exists_findings_of_perm hperm hfound
    have hpaths : (found.map Finding.path).Nodup :=
      paths_of_judges (forall₂_of_findings hfound) ▸ hd
    have hreport := Report.ofFindings_eq_of_perm hpaths hperm' root
    rw [← reportOn_congr hfound hfound' hreport, hr]
  exact ⟨heq hperm hd, heq hperm.symm ((hperm.map SourceFile.path).nodup hd)⟩

/--
**Verdicts and reports do not depend on the order in which things are found.**

The entries of a histogram may be reordered: the same signature wins, by its votes and of equally many
by letter and width, it is promoted alike, and whatever the settings say the verdict is the same, or in
both orders there is none. The files of a scan may be found in any order if no two are listed by the
same path: there is a report in both cases or in neither, and it is the same one. Its summary is what a
tally in the order of discovery gives.
-/
theorem verdict_and_report_of_perm :
    (∀ h h' : Histogram, h.keys.Nodup → h.Perm h' → h'.winner? = h.winner? ∧
      (∀ s, h'.promoteMixed s = h.promoteMixed s) ∧
      ∀ settings, resolve h' settings = resolve h settings) ∧
    (∀ h : Histogram, h.keys.Nodup → (h.winner? = none ↔ h = []) ∧
      ∀ s, h.winner? = some s → s ∈ h.keys ∧ ∀ t ∈ h.keys, h.votes t ≤ h.votes s ∧
        (h.votes t = h.votes s →
          toLex (s.style.letter, s.width) ≤ toLex (t.style.letter, t.width))) ∧
    (∀ (skipDocs : Bool) (root : String) (files files' : List SourceFile),
      (files.map SourceFile.path).Nodup → files.Perm files' →
      ∀ r, reportOn skipDocs root files = .ok r ↔ reportOn skipDocs root files' = .ok r) ∧
    (∀ (c : ScanConfig) (t : FileTree) (root : Location) (found : List Location),
      let base := if t.entry? root = some .directory then root else root.dropLast
      (found.map (listedPath base)).Nodup →
      found.Perm ({ c with root := FileTree.pathOf root }.sources t []) →
      ∀ r, reportAt c t root = .ok r ↔
        reportOn c.skipDocs (FileTree.pathOf root).toString (found.map (sourceFile t base)) = .ok r) ∧
    ∀ (root : String) (found : List Finding),
      (Report.mk root found).summaryToJson = (Report.ofFindings root found).summaryToJson := by
  refine ⟨fun h h' hd hperm => ?_, fun h hd => ⟨Histogram.winner?_eq_none_iff, fun s hs => ?_⟩,
    fun skipDocs root files files' hd hperm r => reportOn_eq_ok_iff_of_perm hd hperm, ?_,
    fun root found => ?_⟩
  · have hscaled := Histogram.isScaled_one_of_perm hd hperm
    exact ⟨hscaled.winner?_eq Int.one_pos, hscaled.promoteMixed_eq Int.one_pos,
      hscaled.resolve_eq Int.one_pos⟩
  · exact Histogram.winner?_max hd hs
  · intro c t root found base hd hperm r
    have hpaths : ((found.map (sourceFile t base)).map SourceFile.path).Nodup := by
      rw [List.map_map]
      exact hd
    exact (reportOn_eq_ok_iff_of_perm hpaths (hperm.map (sourceFile t base))).symm
  · exact Report.summaryToJson_eq_of_perm (Report.files_ofFindings_perm root found).symm

/-- A tie that the width decides as a number, and two files that are found in either order. -/
theorem verdict_and_report_of_perm_two :
    let h : Histogram := [(.mixed 10, 3), (.spaces 2, -1), (.mixed 9, 3)]
    let h' : Histogram := [(.mixed 9, 3), (.mixed 10, 3), (.spaces 2, -1)]
    let t : FileTree := ⟨[(["b.py"], .file [97, 10, 9, 98]), (["a.py"], .file [])]⟩
    let a : SourceFile := ⟨"a.py", []⟩
    let b : SourceFile := ⟨"b.py", [97, 10, 9, 98]⟩
    (h.keys.Nodup ∧ h.Perm h' ∧ h'.winner? = some (.mixed 9) ∧ resolve h' {} = .ok (.mixed 9) ∧
      h.votes (.mixed 10) ≤ h.votes (.mixed 9)) ∧
    ([a, b].map SourceFile.path).Nodup ∧ [a, b].Perm [b, a] ∧
      ([["b.py"], ["a.py"]].map (listedPath [])).Nodup ∧
      [["b.py"], ["a.py"]].Perm (ScanConfig.sources { root := FileTree.pathOf [] } t []) ∧
      ∃ r, reportAt {} t [] = .ok r ∧ reportOn false "/" [a, b] = .ok r ∧
        reportOn false "/" [b, a] = .ok r := by
  intro h h' t a b
  obtain ⟨horder, hwinner, hfiles, hscan, -⟩ := verdict_and_report_of_perm
  have hd : h.keys.Nodup := by decide
  have hperm : h.Perm h' := by decide
  have hwins : h.winner? = some (.mixed 9) := by decide
  obtain ⟨hsame, -, hverdict⟩ := horder h h' hd hperm
  have hfound : findings false [a, b] = .ok [⟨"a.py", .unknown⟩, ⟨"b.py", .tabs 8⟩] := by cbv
  have hreport := (Report.sound_ofFindings "/" (by decide) (forall₂_of_findings hfound)).reportOn_eq
    hfound
  have hpaths : ([["b.py"], ["a.py"]].map (listedPath [])).Nodup := by decide
  have hsources : ScanConfig.sources { root := FileTree.pathOf [] } t [] = [["a.py"], ["b.py"]] := by
    cbv
  have hdiscovered : [["b.py"], ["a.py"]].Perm
      (ScanConfig.sources { root := FileTree.pathOf [] } t []) := hsources ▸ .swap _ _ []
  have hswap : [a, b].Perm [b, a] := .swap _ _ []
  have hreversed := (hfiles false "/" _ _ (by decide) hswap _).mp hreport
  refine ⟨⟨hd, hperm, hsame.trans hwins, ?_, ?_⟩, by decide, hswap, hpaths, hdiscovered, _, ?_, hreport,
    hreversed⟩
  · rw [hverdict]
    decide
  · exact (((hwinner h hd).2 _ hwins).2 _ (by decide)).1
  · exact (hscan {} t [] _ hpaths hdiscovered _).mpr hreversed

end Indentation
