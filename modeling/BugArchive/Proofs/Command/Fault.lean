import BugArchive.Proofs.Command.Run

namespace BugArchive.Command

open Archive (IsTold Source readFrom)

section Told

variable [Machine] {d : Disk}

lemma reports_readFrom (r : Registry) {source : Source} {s : Stream}
    (hs : source.toStream d = .ok s) (ho : s.access ≠ .closed) (a : Archive) :
    Reports ((readFrom r d source).apply a).1.result ↔ IsTold r s := by
  rw [Archive.result_readFrom, reports_map, Archive.decodeFrom, hs]
  exact Archive.reports_decode ho

lemma reports_intake {action : Action} {s : Stream}
    (hs : Source.toStream d (.path action.file) = .ok s) :
    Reports (action.intake d) ↔ action = .check action.file ∨ IsTold .builtin s := by
  obtain ⟨content, hr, rfl⟩ := map_eq_ok.mp hs
  have hload : Reports ((load d action.file).result.map fun _ => ()) ↔
      IsTold .builtin (.ofContent content) := by
    rw [reports_map, result_load, hs, ← Archive.reports_decode (by simp [Stream.ofContent])]
    change Reports (Archive.read .builtin (.ofContent content) .empty).result ↔ _
    rw [Archive.result_read, reports_map]
  cases action with
  | check file =>
    refine iff_of_true (reports_bind.mpr ⟨fun err h => ?_, fun c _ => ?_⟩) (.inl rfl)
    · rw [show d.read file = .ok content from hr] at h
      cases h
    · exact Signature.reports_check (.ofContent c)
  | summary file => exact hload.trans (or_iff_right fun h => by cases h).symm
  | upgrade input output => exact hload.trans (or_iff_right fun h => by cases h).symm
  | exportJson file output => exact hload.trans (or_iff_right fun h => by cases h).symm

/-- Whatever is wrong with a file is told in words, unless its document cannot be parsed for other
reasons than its form or findings in it stand too deep to be followed. -/
theorem told_iff {source : Source} {s : Stream} (hs : source.toStream d = .ok s)
    (ho : s.access ≠ .closed) :
    (∀ r a, Reports ((readFrom r d source).apply a).1.result ↔ IsTold r s) ∧
      ∀ env arguments verbose action level,
        Request.ofArguments arguments = .run ⟨verbose, action⟩ →
        levelFor env verbose = .ok level → source = .path action.file →
        ∀ err, action.intake d = .error err →
          ((run env arguments d).ending = .status 1 ∧
            (run env arguments d).output = ["Error: " ++ err.message] ↔
              action = .check action.file ∨ IsTold .builtin s) := by
  refine ⟨fun r a => reports_readFrom r hs ho a, ?_⟩
  rintro env arguments verbose action level ha hl rfl err herr
  obtain ⟨log, hw⟩ := apply_work_error herr (Settings.indent env.indent)
  rw [run, runOn_eq ha hl, conclude_archive (apply_perform_error hw) rfl, ← reports_intake hs, herr,
    reports_error]

end Told

section Files

attribute [local instance] Machine.usual

lemma arguments_summary :
    Request.ofArguments ["summary", "a.xml"] = .run ⟨false, .summary "a.xml"⟩ := by decide

lemma intake_summary {content : List UInt8} {err : Error}
    (h : Archive.decode .builtin (.ofContent content) = .error err) :
    (Action.summary "a.xml").intake (diskOf content) = .error err := by
  change (load (diskOf content) "a.xml").result.map _ = _
  rw [result_load, toStream_diskOf]
  change (Archive.read .builtin (.ofContent content) .empty).result.map _ = _
  rw [Archive.result_read, h]
  rfl

theorem told_iff_empty :
    Source.toStream (diskOf []) (.path "a.xml") = .ok (.ofContent []) ∧
      (Stream.ofContent []).access ≠ .closed ∧
      (run ⟨none, none⟩ ["summary", "a.xml"] (diskOf [])).ending = .status 1 ∧
      (run ⟨none, none⟩ ["summary", "a.xml"] (diskOf [])).output =
        ["Error: XML does not contain saved bug data: stream ended after 0 of 60 bytes"] := by
  have hd := Archive.decode_nil .builtin
  have ht : IsTold .builtin (.ofContent []) :=
    (Archive.reports_decode (by decide)).mp fun err h => by
      rw [hd] at h
      obtain rfl := Except.error.inj h
      rfl
  refine ⟨toStream_diskOf [], by decide, ?_⟩
  exact ((told_iff (toStream_diskOf []) (by decide)).2 ⟨none, none⟩ _ _ _ 30 arguments_summary rfl
    rfl _ (intake_summary hd)).mpr (.inr ht)

def misdeclared : List UInt8 :=
  Text.Utf8.encode "<?xml version='1.0' encoding='none'?>\n<BugCollection>\n</BugCollection>\n".toList

lemma declared_none :
    Xml.Encoding.declared .utf8 "none" = .error (.unknownEncoding "none") := by
  have hkey : Xml.Charset.normalize "none" = "none" := rfl
  have hspaced : "none".map (fun c => if c = '.' then '_' else c) = "none" := by
    rw [← String.toList_inj, String.toList_map]
    rfl
  have hname : Xml.Charset.ofName? "none" = none := by
    rw [Xml.Charset.ofName?, hkey]
    simp only [hspaced]
    rfl
  rw [Xml.Encoding.declared, show Xml.Encoding.known? .utf8 "none" = none from rfl]
  simp only [hname]

lemma read_misdeclared (reading : Nat) (h : 1 < reading) :
    Xml.Document.read reading misdeclared = .error (.unknownEncoding "none") := by
  have he : Xml.Encoding.detectFrom (some reading) misdeclared = (.utf8, []) := by
    rw [Xml.Encoding.detectFrom, if_neg fun hr => Nat.ne_of_gt h (Option.some.inj hr.1)]
    rfl
  have hb : Xml.Encoding.utf8.cutBracket misdeclared =
      (misdeclared.take 37, misdeclared.drop 37) := by decide
  have hl : Xml.Encoding.latin1.decode (misdeclared.take 37) =
      some "<?xml version='1.0' encoding='none'?>".toList := by decide
  have ho : Xml.Declaration.isOpening "<?xml version='1.0' encoding='none'?>".toList = true := by
    decide
  have hr : Xml.Declaration.read? "<?xml version='1.0' encoding='none'?>".toList =
      some ⟨some "none", false⟩ := by decide
  have hn := declared_none
  simp only [Xml.Document.read, Xml.Document.ofOctets, he, List.length_nil, List.drop_zero, hb,
    Xml.Encoding.isWide, Bool.false_eq_true, if_false, hl, ho, if_true, hr, hn, bind, Except.bind]

lemma decode_misdeclared :
    Archive.decode .builtin (.ofContent misdeclared) =
      .error (.document (.unknownEncoding "none")) := by
  have hc : (Signature.check Signature.window (.ofContent misdeclared)).result = .ok () := by
    have hfront : misdeclared.take 60 = Text.Utf8.encode
        "<?xml version='1.0' encoding='none'?>\n<BugCollection>\n</BugC".toList ++ [] := rfl
    have hnil : Text.Utf8.decodeLossy [] = [] := by
      rw [Text.Utf8.decodeLossy, Text.Utf8.scan]
      rfl
    rw [Signature.check_seekable (by decide) rfl (by decide)]
    change Signature.judge Signature.window (misdeclared.take 60) = .ok ()
    rw [Signature.judge, if_neg (by decide), hfront, Text.Utf8.decodeLossy_append, hnil]
    rfl
  have hp : Archive.parse (.ofContent misdeclared) =
      .error (.document (.unknownEncoding "none")) := by
    rw [Archive.parse, if_neg (by simp [Stream.ofContent]),
      show (Stream.ofContent misdeclared).remaining = misdeclared from rfl,
      show (Stream.ofContent misdeclared).reading Archive.pieceSize = Archive.pieceSize from rfl,
      read_misdeclared _ (by decide)]
  rw [Archive.decode, hc, Signature.check_stream, hp]
  rfl

theorem escapes_misdeclared :
    ((readFrom .builtin .empty (.stream (.ofContent misdeclared))).apply .empty).1.result =
        .error (.document (.unknownEncoding "none")) ∧
      (Error.document (.unknownEncoding "none")).isReported = false ∧
      (run ⟨none, none⟩ ["summary", "a.xml"] (diskOf misdeclared)).ending =
        .failure (.archive (.document (.unknownEncoding "none"))) := by
  refine ⟨?_, rfl, ?_⟩
  · rw [Archive.result_readFrom, Archive.decodeFrom]
    exact congrArg (Except.map _) decode_misdeclared
  · have hl : levelFor ⟨none, none⟩ false = .ok Settings.defaultLevel := rfl
    obtain ⟨log, hw⟩ := apply_work_error (intake_summary decode_misdeclared) (Settings.indent none)
    rw [run, runOn_eq arguments_summary hl, conclude_untold (apply_perform_error hw) rfl]

end Files

end BugArchive.Command
