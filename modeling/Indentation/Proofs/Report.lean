import Indentation.Proofs.Histogram
import Indentation.Proofs.Json.Document
import Indentation.Proofs.Schema
import Indentation.Proofs.Signature
import Indentation.Proofs.Utf8
import Indentation.Scan.Run
import Mathlib.Data.List.Dedup

/-!
# Scan reports

A report is computed from the findings alone, so what holds of every report follows from two things
that hold of every finding: it has a path, and its signature is a verdict (`Report.Sound`).

The files are tallied twice, by their signatures for the prevailing one and by what is written for
them for the counts. The two tallies agree, as known signatures that are written alike are the same
(`count_written`).

A report is stored as a printed document. It is read back with the members of its objects in the order
of their keys, and the schema accepts it in that order as well.

## Main statements

* `sum_bySignature` — the counts of a report add up to the number of its files
* `prevailing_cases` — the prevailing signature is the known one that most files have
* `holds_toJson` — every sound report satisfies the schema
* `checkFile_of_printed` — and every file that holds one
* `reportOn_consistent` — what a scan reports on some files
-/

namespace Indentation

open Json Scan

/-! ## What is found -/

namespace Scan

variable {skipDocs : Bool} {files : List SourceFile} {found : List Finding}

/-- A finding is the verdict on a file. -/
def Judges (skipDocs : Bool) (f : SourceFile) (e : Finding) : Prop :=
  e.path = f.path ∧ detectBytes skipDocs f.bytes = .ok e.signature

/-- **What is found are the verdicts on the files**, one for each. -/
theorem forall₂_of_findings (h : findings skipDocs files = .ok found) :
    List.Forall₂ (Judges skipDocs) files found := by
  induction files generalizing found with
  | nil =>
    obtain rfl := Except.ok.inj h
    exact .nil
  | cons f files ih =>
    cases hs : detectBytes skipDocs f.bytes with
    | error e =>
      rw [findings_cons_of_error hs] at h
      cases h
    | ok s =>
      rw [findings, hs] at h
      cases hrest : findings skipDocs files with
      | error e =>
        rw [hrest] at h
        cases h
      | ok rest =>
        rw [hrest] at h
        obtain rfl := Except.ok.inj h
        exact .cons ⟨rfl, hs⟩ (ih hrest)

theorem findings_eq_ok_iff :
    findings skipDocs files = .ok found ↔ List.Forall₂ (Judges skipDocs) files found := by
  refine ⟨forall₂_of_findings, fun h => ?_⟩
  induction h with
  | nil => rfl
  | @cons f e files found hjudges _ ih =>
    obtain ⟨hpath, hverdict⟩ := hjudges
    rw [findings, hverdict, ih, ← hpath]
    rfl

/-- Where there is a verdict on every file, there is one finding for each. -/
theorem exists_findings (h : ∀ f ∈ files, ∃ s, detectBytes skipDocs f.bytes = .ok s) :
    ∃ found, findings skipDocs files = .ok found ∧ List.Forall₂ (Judges skipDocs) files found := by
  have hfound : ∃ found, findings skipDocs files = .ok found := by
    induction files with
    | nil => exact ⟨[], rfl⟩
    | cons f files ih =>
      obtain ⟨s, hs⟩ := h f List.mem_cons_self
      obtain ⟨found, hfound⟩ := ih fun g hg => h g (List.mem_cons_of_mem f hg)
      refine ⟨⟨f.path, s⟩ :: found, ?_⟩
      rw [findings, hs, hfound]
      rfl
  obtain ⟨found, hfound⟩ := hfound
  exact ⟨found, hfound, forall₂_of_findings hfound⟩

/-- A report is made of what is found. -/
theorem exists_of_reportOn {skipDocs : Bool} {root : String} {files : List SourceFile} {r : Report}
    (h : reportOn skipDocs root files = .ok r) :
    ∃ found, findings skipDocs files = .ok found ∧ r = Report.ofFindings root found := by
  unfold reportOn at h
  cases hfound : findings skipDocs files with
  | error e =>
    rw [hfound] at h
    cases h
  | ok found =>
    rw [hfound] at h
    refine ⟨found, rfl, ?_⟩
    simp only [Except.mapError, bind, Except.bind] at h
    split at h
    · cases h
    · exact (Except.ok.inj h).symm

theorem exists_judges_of_mem (h : List.Forall₂ (Judges skipDocs) files found) {e : Finding}
    (he : e ∈ found) : ∃ f ∈ files, Judges skipDocs f e := by
  induction h with
  | nil => cases he
  | cons hjudges _ ih =>
    rcases List.mem_cons.mp he with rfl | he
    · exact ⟨_, List.mem_cons_self, hjudges⟩
    · obtain ⟨f, hf, hjudges⟩ := ih he
      exact ⟨f, List.mem_cons_of_mem _ hf, hjudges⟩

end Scan

namespace Report

variable {r : Report}

/-- A report on files that have paths and verdicts. -/
structure Sound (r : Report) : Prop where
  path_ne_empty : ∀ e ∈ r.files, e.path ≠ ""
  isVerdict : ∀ e ∈ r.files, e.signature.IsVerdict

theorem sound_ofFindings {skipDocs : Bool} {files : List SourceFile} {found : List Finding}
    (root : String) (hpath : ∀ f ∈ files, f.path ≠ "")
    (h : List.Forall₂ (Judges skipDocs) files found) : (ofFindings root found).Sound := by
  have hentry : ∀ e ∈ (ofFindings root found).files, ∃ f ∈ files, Judges skipDocs f e :=
    fun e he => exists_judges_of_mem h ((files_ofFindings_perm root found).mem_iff.mp he)
  constructor
  · intro e he
    obtain ⟨f, hf, hjudges⟩ := hentry e he
    exact hjudges.1 ▸ hpath f hf
  · intro e he
    obtain ⟨f, -, hjudges⟩ := hentry e he
    exact Signature.isVerdict_of_detect hjudges.2

theorem pairwise_files_ofFindings (root : String) (found : List Finding) :
    (ofFindings root found).files.Pairwise fun a b => a.path ≤ b.path :=
  pairwise_mergeSort_text Finding.path found

/-! ## The counts of written signatures -/

theorem nodup_eraseDups : ∀ l : List String, l.eraseDups.Nodup
  | [] => by
    rw [List.eraseDups_nil]
    exact List.nodup_nil
  | w :: l => by
    rw [List.eraseDups_cons, List.nodup_cons, List.mem_eraseDups]
    exact ⟨by simp, nodup_eraseDups _⟩
  termination_by l => l.length
  decreasing_by
    exact Nat.lt_succ_of_le (List.length_filter_le _ _)

/-- The written signatures of the files. -/
def written (r : Report) : List String := r.files.map fun f => f.signature.toString

theorem count_eq (r : Report) (w : String) : r.count w = r.written.count w := by
  rw [count, written, List.count, List.countP_map]
  rfl

/-- The written signatures that are counted are those that occur, each of them once. -/
theorem bySignature_perm (r : Report) :
    r.bySignature.Perm (r.written.dedup.map fun w => (w, r.written.count w)) := by
  have hdistinct : (r.written.eraseDups.mergeSort fun a b => a ≤ b).Perm r.written.dedup := by
    refine (List.mergeSort_perm _ _).trans ?_
    refine (List.perm_ext_iff_of_nodup (nodup_eraseDups _) (List.nodup_dedup _)).mpr fun w => ?_
    rw [List.mem_eraseDups, List.mem_dedup]
  have hcount : (fun w => (w, r.count w)) = fun w => (w, r.written.count w) :=
    funext fun w => congrArg (Prod.mk w) (r.count_eq w)
  rw [bySignature, hcount]
  exact hdistinct.map _

/-- **The counts add up to the number of files.** -/
theorem sum_bySignature (r : Report) : (r.bySignature.map Prod.snd).sum = r.files.length := by
  rw [(r.bySignature_perm.map Prod.snd).sum_eq, List.map_map]
  exact (List.sum_map_count_dedup_eq_length r.written).trans (List.length_map _)

theorem mem_bySignature {w : String} {n : Nat} :
    (w, n) ∈ r.bySignature ↔ n = r.written.count w ∧ 0 < n := by
  rw [r.bySignature_perm.mem_iff, List.mem_map]
  constructor
  · rintro ⟨w', hw, heq⟩
    obtain ⟨rfl, rfl⟩ := Prod.mk.inj heq
    exact ⟨rfl, List.count_pos_iff.mpr (List.mem_dedup.mp hw)⟩
  · rintro ⟨rfl, hpos⟩
    exact ⟨w, List.mem_dedup.mpr (List.count_pos_iff.mp hpos), rfl⟩

theorem nodup_keys_bySignature (r : Report) : (r.bySignature.map Prod.fst).Nodup := by
  rw [(r.bySignature_perm.map Prod.fst).nodup_iff, List.map_map]
  have hid : (Prod.fst ∘ fun w => (w, r.written.count w)) = id := rfl
  rw [hid, List.map_id]
  exact List.nodup_dedup _

/-! ## The prevailing signature -/

/-- The known signatures of the files. -/
def known (r : Report) : List Signature :=
  (r.files.map Finding.signature).filter fun s => !s.isUnknown

theorem votes_eq (r : Report) : r.votes = Histogram.ofVotes r.known := by
  rw [votes, Histogram.ofVotes, known, List.foldl_filter]
  congr 1
  funext h s
  cases s.isUnknown <;> rfl

/-- A known signature is written as often as it is found. -/
theorem count_written {s : Signature} (hs : s.isUnknown = false) :
    r.written.count s.toString = r.known.count s := by
  rw [written, known, List.count, List.count, List.countP_map, List.countP_filter, List.countP_map]
  refine List.countP_congr fun f _ => ?_
  simp only [Function.comp_apply, beq_iff_eq, Bool.and_eq_true, Bool.not_eq_true']
  constructor
  · intro h
    have heq : f.signature = s := Signature.eq_of_toString_eq hs h
    exact ⟨heq, heq ▸ hs⟩
  · rintro ⟨h, -⟩
    rw [h]

theorem mem_known {s : Signature} :
    s ∈ r.known ↔ s.isUnknown = false ∧ ∃ e ∈ r.files, e.signature = s := by
  rw [known, List.mem_filter, List.mem_map, Bool.not_eq_true', and_comm]

theorem known_eq_nil_iff : r.known = [] ↔ ∀ e ∈ r.files, e.signature.isUnknown = true := by
  rw [known, List.filter_eq_nil_iff]
  simp

/-- **The prevailing signature is the known one that most files have**, and of several the first by
letter and width. Without known signatures it is the unknown one. -/
theorem prevailing_cases (r : Report) :
    (r.known = [] ∧ r.prevailing = .unknown) ∨
      (r.prevailing ∈ r.known ∧ ∀ s ∈ r.known, r.known.count s < r.known.count r.prevailing ∨
        r.known.count s = r.known.count r.prevailing ∧
          (s = r.prevailing ∨ r.prevailing.precedes s = true)) := by
  have hvotes := r.votes_eq
  cases hwinner : r.votes.winner? with
  | none =>
    refine .inl ⟨?_, by rw [prevailing, hwinner]; rfl⟩
    rwa [Histogram.winner?_eq_none_iff, hvotes, Histogram.ofVotes_eq_nil_iff] at hwinner
  | some p =>
    have hp : r.prevailing = p := by rw [prevailing, hwinner]; rfl
    rw [hvotes, Histogram.winner?_eq_some_iff (Histogram.nodup_keys_ofVotes _)] at hwinner
    simp only [Histogram.mem_keys_ofVotes, Histogram.votes_ofVotes] at hwinner
    rw [hp]
    refine .inr ⟨hwinner.1, fun s hs => ?_⟩
    rcases Histogram.lt_or_precedes_of_not_beats (hwinner.2 s hs) with hlt | ⟨heq, htie⟩
    · exact .inl (Int.ofNat_lt.mp hlt)
    · exact .inr ⟨Int.ofNat_inj.mp heq, htie⟩

/-! ## The schema -/

theorem holds_signature {s : Signature} (h : s.IsVerdict) :
    ReportSchema.signature.holds (.str s.toString) = true := by
  simp [ReportSchema.signature, Schema.holds, Keyword.holds, Kind.holds, Value.str?, h.holds_pattern]

/-- The entry of a file with a verdict and a path satisfies the schema for it. -/
theorem holds_fileToJson {e : Finding} (hpath : e.path ≠ "") (hsig : e.signature.IsVerdict) :
    ReportSchema.fileEntry.holds (fileToJson e) = true := by
  have hlength : 1 ≤ e.path.length := by
    rw [Nat.one_le_iff_ne_zero, ne_eq, String.length_eq_zero_iff]
    exact hpath
  have hstyle : e.signature.style.name ∈ Style.all.map Style.name := by
    cases e.signature.style <;> decide
  refine (Schema.holds_record (by decide) rfl rfl).mpr ?_
  refine .cons ?_ (.cons ?_ (.cons ?_ (.cons ?_ .nil)))
  · simpa [Schema.holds, Keyword.holds, Kind.holds, Value.str?] using hlength
  · exact (Schema.holds_ref _ _ _).mpr (holds_signature hsig)
  · simpa [Schema.holds, Keyword.holds, Value.str?] using hstyle
  · exact (Schema.holds_integer _ _).mpr hsig.width_nonneg

theorem isVerdict_prevailing (h : ∀ e ∈ r.files, e.signature.IsVerdict) : r.prevailing.IsVerdict := by
  rcases r.prevailing_cases with ⟨-, hunknown⟩ | ⟨hknown, -⟩
  · exact .inl hunknown
  · obtain ⟨-, e, he, heq⟩ := mem_known.mp hknown
    exact heq ▸ h e he

/-- The summary of files with verdicts satisfies the schema for it. -/
theorem holds_summaryToJson (h : ∀ e ∈ r.files, e.signature.IsVerdict) :
    ReportSchema.summary.holds r.summaryToJson = true := by
  refine (Schema.holds_record (by decide) rfl rfl).mpr ?_
  refine .cons ?_ (.cons ?_ (.cons ?_ (.cons ?_ .nil)))
  · exact (Schema.holds_integer _ _).mpr (Int.natCast_nonneg _)
  · refine (Schema.holds_map _ _ _).mpr fun m hm => ?_
    obtain ⟨⟨w, n⟩, hc, rfl⟩ := List.mem_map.mp hm
    obtain ⟨rfl, hpos⟩ := mem_bySignature.mp hc
    obtain ⟨e, he, rfl⟩ := List.mem_map.mp (List.count_pos_iff.mp hpos)
    exact ⟨(Schema.holds_ref _ _ _).mpr (holds_signature (h e he)),
      (Schema.holds_integer _ _).mpr (Int.natCast_pos.mpr hpos)⟩
  · exact (Schema.holds_ref _ _ _).mpr (holds_signature (isVerdict_prevailing h))
  · exact (Schema.holds_integer _ _).mpr (Int.natCast_nonneg _)

/-- **Every sound report satisfies the schema.** -/
theorem Sound.holds_toJson (h : r.Sound) : ReportSchema.schema.holds r.toJson = true := by
  refine (Schema.holds_record (by decide) rfl rfl).mpr ?_
  refine .cons ?_ (.cons ?_ (.cons ?_ (.cons ?_ .nil)))
  · simp [Schema.holds, Keyword.holds, Value.str?]
  · simp [Schema.holds, Keyword.holds, Kind.holds]
  · refine (Schema.holds_array _ _).mpr fun v hv => ?_
    obtain ⟨e, he, rfl⟩ := List.mem_map.mp hv
    have hentry := holds_fileToJson (h.path_ne_empty e he) (h.isVerdict e he)
    exact (Schema.holds_ref _ _ _).mpr hentry
  · exact holds_summaryToJson h.isVerdict

/-- The checker accepts what satisfies the schema. -/
theorem check_of_holds {v : Value} (h : ReportSchema.schema.holds v = true) :
    ReportSchema.check v = .ok () := by
  rw [ReportSchema.check, (Schema.violation?_eq_none_iff _ _).mpr h]

/-- **The schema of reports never refuses a sound one.** -/
theorem Sound.reportOn_eq {skipDocs : Bool} {root : String} {files : List SourceFile}
    {found : List Finding} (h : (ofFindings root found).Sound)
    (hfound : findings skipDocs files = .ok found) :
    reportOn skipDocs root files = .ok (ofFindings root found) := by
  rw [reportOn, hfound]
  simp only [Except.mapError, bind, Except.bind, check_of_holds h.holds_toJson]
  rfl

/-! ## Stored reports -/

/-- Every number that the report holds is below ten to the power of the limit, and so within it. -/
structure IsWithinLimit (r : Report) : Prop where
  length_lt : r.files.length < 10 ^ Numeral.limit
  width_lt : ∀ e ∈ r.files, e.signature.width.natAbs < 10 ^ Numeral.limit

theorem exact_int {n : Int} (h : n.natAbs < 10 ^ Numeral.limit) : Exact (.int n) :=
  .int n ((Nat.length_toDigits_le_iff (by decide) (by decide)).mpr h)

theorem exact_count {n : Nat} (hr : r.IsWithinLimit) (hn : n ≤ r.files.length) : Exact (.int n) :=
  exact_int (Nat.lt_of_le_of_lt hn hr.length_lt)

theorem exact_fileToJson {e : Finding} (h : e.signature.width.natAbs < 10 ^ Numeral.limit) :
    Exact (fileToJson e) := by
  refine .obj _ (by simp [Signature.toJson, Value.obj?]) ?_
  simp only [Signature.toJson, Value.obj?, Option.getD_some, List.forall_mem_cons]
  exact ⟨.str _, .str _, .str _, exact_int h, fun _ hm => by cases hm⟩

theorem exact_toJson (hr : r.IsWithinLimit) : Exact r.toJson := by
  have hcounts : Exact (.obj (r.bySignature.map fun c => (c.1, .int c.2))) := by
    refine .obj _ ?_ ?_
    · rw [List.map_map]
      exact r.nodup_keys_bySignature
    · intro m hm
      obtain ⟨⟨w, n⟩, hc, rfl⟩ := List.mem_map.mp hm
      obtain ⟨rfl, -⟩ := mem_bySignature.mp hc
      have hlength : r.written.length = r.files.length := List.length_map _
      have hle : r.written.count w ≤ r.written.length := List.count_le_length
      exact exact_count hr (hlength ▸ hle)
  have hsummary : Exact r.summaryToJson := by
    refine .obj _ (by simp) ?_
    simp only [List.forall_mem_cons]
    exact ⟨exact_count hr (Nat.le_refl _), hcounts, .str _, exact_count hr List.countP_le_length,
      fun _ hm => by cases hm⟩
  refine .obj _ (by simp) ?_
  simp only [List.forall_mem_cons]
  refine ⟨.str _, .str _, .arr _ fun v hv => ?_, hsummary, fun _ hm => by cases hm⟩
  obtain ⟨e, he, rfl⟩ := List.mem_map.mp hv
  exact exact_fileToJson (hr.width_lt e he)

/-- **A file that holds a printed report is accepted**, in whatever layout it is printed. -/
theorem Sound.checkFile_of_printed (h : r.Sound) (hr : r.IsWithinLimit) (layout : Layout)
    {t : FileTree} {cwd : Location} {file : Path}
    (hread : t.read cwd file = .ok (Text.Utf8.encode (Json.print layout r.toJson))) :
    ReportSchema.checkFile t cwd file = .ok () := by
  have hexact := exact_toJson hr
  have hholds : ReportSchema.schema.holds r.toJson.sorted = true :=
    (Schema.holds_sorted _ hexact).mpr h.holds_toJson
  have hversion : r.toJson.sorted.get? "schema_version" = some (.str ReportSchema.version) := by
    rw [Value.get?_sorted hexact.nodup_members]
    rfl
  unfold ReportSchema.checkFile ReportSchema.checkText
  rw [hread]
  simp only [Except.mapError, bind, Except.bind, Text.Utf8.decodeStrict_encode,
    unifyLineEnds_print hexact, read_print hexact, hversion, check_of_holds hholds]
  rfl

/-! ## Consistency -/

/-- What the summary of a report says about its entries: `counts` counts their written signatures, and
`prevailing` is the known signature that most of them have. -/
structure Summarizes (entries : List Finding) (counts : List (String × Nat))
    (prevailing : Signature) : Prop where
  nodup : (counts.map Prod.fst).Nodup
  mem_counts : ∀ w n, (w, n) ∈ counts ↔
    n = (entries.map fun e => e.signature.toString).count w ∧ 0 < n
  sum_counts : (counts.map Prod.snd).sum = entries.length
  prevailing_eq_u_iff : prevailing.toString = "u" ↔ ∀ e ∈ entries, e.signature.toString = "u"
  /-- Of several known signatures that most entries have, it is the first by letter and width. -/
  prevailing_max : prevailing.toString ≠ "u" → ∃ n, (prevailing.toString, n) ∈ counts ∧
    ∀ (s : Signature) (m : Nat), (s.toString, m) ∈ counts → s.toString ≠ "u" →
      m < n ∨ m = n ∧ (s = prevailing ∨ prevailing.precedes s = true)

/-- A report says what there is to say about some files: it lists them by their paths, each with the
verdict on it, and sums the verdicts up. It satisfies the schema, and it does so too when it is read
back from a file. -/
structure Consistent (skipDocs : Bool) (root : String) (files : List SourceFile) (r : Report)
    (counts : List (String × Nat)) (prevailing : Signature) : Prop
    extends Summarizes r.files counts prevailing where
  toJson_eq : r.toJson = .obj [("schema_version", .str "indent_report_v1"), ("root", .str root),
    ("files", .arr (r.files.map fun e => .obj [("path", .str e.path),
      ("signature", .str e.signature.toString), ("style", .str e.signature.style.name),
      ("width", .int e.signature.width)])),
    ("summary", .obj [("files_scanned", .int r.files.length),
      ("by_signature", .obj (counts.map fun c => (c.1, .int c.2))),
      ("prevailing", .str prevailing.toString),
      ("unknown", .int ((r.files.map fun e => e.signature.toString).count "u"))])]
  sorted : r.files.Pairwise fun a b => a.path ≤ b.path
  judged : ∃ found, List.Forall₂ (Judges skipDocs) files found ∧ found.Perm r.files
  satisfies : ReportSchema.schema.holds r.toJson = true
  /-- So the checker finds nothing to report. -/
  valid : ReportSchema.check r.toJson = .ok ()
  /-- Numbers over the limit would neither be printed nor read. -/
  stored : r.IsWithinLimit → ∀ (layout : Layout) (t : FileTree) (cwd : Location) (file : Path),
    t.read cwd file = .ok (Text.Utf8.encode (Json.print layout r.toJson)) →
      ReportSchema.checkFile t cwd file = .ok ()

theorem toString_eq_u_iff {s : Signature} : s.toString = "u" ↔ s.isUnknown = true :=
  Signature.toString_eq_unknown_iff

theorem summarizes (r : Report) : Summarizes r.files r.bySignature r.prevailing where
  nodup := r.nodup_keys_bySignature
  mem_counts w n := mem_bySignature
  sum_counts := r.sum_bySignature
  prevailing_eq_u_iff := by
    simp only [toString_eq_u_iff]
    rw [← known_eq_nil_iff]
    rcases r.prevailing_cases with ⟨hnil, hunknown⟩ | ⟨hmem, -⟩
    · exact iff_of_true (by rw [hunknown]; rfl) hnil
    · exact iff_of_false (by rw [(mem_known.mp hmem).1]; decide) (List.ne_nil_of_mem hmem)
  prevailing_max := by
    intro hne
    rw [ne_eq, toString_eq_u_iff, Bool.not_eq_true] at hne
    rcases r.prevailing_cases with ⟨-, hunknown⟩ | ⟨hmem, hmax⟩
    · rw [hunknown] at hne
      cases hne
    · refine ⟨r.known.count r.prevailing, ?_, fun s m hs hsu => ?_⟩
      · exact mem_bySignature.mpr ⟨(count_written hne).symm, List.count_pos_iff.mpr hmem⟩
      · rw [ne_eq, toString_eq_u_iff, Bool.not_eq_true] at hsu
        obtain ⟨rfl, hpos⟩ := mem_bySignature.mp hs
        rw [count_written hsu] at hpos ⊢
        exact hmax s (List.count_pos_iff.mp hpos)

end Report

/--
**Every scan report is consistent and valid.**

Where every file has a path and a verdict, there is a report on the files, so the schema never refuses
one. The report lists the files in the order of their paths, its summary agrees with that list, and a
file that it is printed to is accepted as a report.
-/
theorem Scan.reportOn_consistent (skipDocs : Bool) (root : String) (files : List SourceFile)
    (hpath : ∀ f ∈ files, f.path ≠ "")
    (hdetect : ∀ f ∈ files, ∃ s, detectBytes skipDocs f.bytes = .ok s) :
    ∃ r counts prevailing, reportOn skipDocs root files = .ok r ∧
      Report.Consistent skipDocs root files r counts prevailing := by
  obtain ⟨found, hfound, hjudged⟩ := exists_findings hdetect
  have hsound := Report.sound_ofFindings root hpath hjudged
  have hreport := hsound.reportOn_eq hfound
  generalize hr : Report.ofFindings root found = r at hsound hreport
  have hperm : found.Perm r.files := hr ▸ (Report.files_ofFindings_perm root found).symm
  have hroot : r.root = root := hr ▸ rfl
  have hunknown : r.unknown = (r.files.map fun e => e.signature.toString).count "u" :=
    r.count_eq "u"
  exact ⟨r, r.bySignature, r.prevailing, hreport, {
    toSummarizes := r.summarizes
    toJson_eq := by
      rw [← hunknown, ← hroot]
      rfl
    sorted := hr ▸ Report.pairwise_files_ofFindings root found
    judged := ⟨found, hjudged, hperm⟩
    satisfies := hsound.holds_toJson
    valid := Report.check_of_holds hsound.holds_toJson
    stored := fun hlimit layout t cwd file => hsound.checkFile_of_printed hlimit layout }⟩

/-- Two files, of which the one that is found second is listed first. -/
theorem Scan.reportOn_consistent_two :
    (∀ f ∈ [SourceFile.mk "b" (Text.Utf8.encode "a\n  b\n".toList), .mk "a" []], f.path ≠ "") ∧
    (∀ f ∈ [SourceFile.mk "b" (Text.Utf8.encode "a\n  b\n".toList), .mk "a" []],
      ∃ s, detectBytes false f.bytes = .ok s) ∧
    ∃ r counts prevailing, reportOn false "/"
        [.mk "b" (Text.Utf8.encode "a\n  b\n".toList), .mk "a" []] = .ok r ∧
      Report.Consistent false "/" [.mk "b" (Text.Utf8.encode "a\n  b\n".toList), .mk "a" []] r counts
        prevailing := by
  have hpath : ∀ f ∈ [SourceFile.mk "b" (Text.Utf8.encode "a\n  b\n".toList), .mk "a" []],
      f.path ≠ "" := by
    simp
  have hspaces : detectBytes false (Text.Utf8.encode "a\n  b\n".toList) = .ok (.spaces 2) := by cbv
  have hempty : detectBytes false [] = .ok .unknown := by cbv
  have hdetect : ∀ f ∈ [SourceFile.mk "b" (Text.Utf8.encode "a\n  b\n".toList), .mk "a" []],
      ∃ s, detectBytes false f.bytes = .ok s := by
    simp only [List.forall_mem_cons]
    exact ⟨⟨_, hspaces⟩, ⟨_, hempty⟩, fun _ hm => by cases hm⟩
  exact ⟨hpath, hdetect, reportOn_consistent false "/" _ hpath hdetect⟩

end Indentation
