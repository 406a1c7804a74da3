import BugArchive.Proofs.Archive.Writing
import BugArchive.Proofs.Command.Export

namespace BugArchive

namespace Archive

variable [Machine] {a : Archive} {width : Nat} {content : List UInt8} {note : Log.Entry}

lemma writeTo_path_eq_ok {path : String} {o o' : Outlet}
    (h : (a.writeTo width (.path path)).apply o = (.ok note, o')) :
    ∃ content, a.write width = .ok (content, note) ∧ o.disk.write path content = .ok o'.disk := by
  cases hw : a.write width with
  | error err => cases (apply_writeTo_error hw).symm.trans h
  | ok written =>
    rw [apply_writeTo_ok hw] at h
    cases hput : (Sink.put written.1 (.path path)).apply o with
    | mk r v =>
      rw [hput] at h
      cases r with
      | error err => cases h
      | ok u =>
        cases h
        exact ⟨written.1, rfl, Sink.write_of_put hput⟩

lemma read_of_write {r : Registry} {s t : Stream} (h : (read r s empty).result = .ok a)
    (hw : a.write width = .ok (content, note)) (ht : t.access = .seekable) (hl : t.limit ≠ some 0)
    (hc : t.remaining = content) : (read .builtin t empty).result = .ok a := by
  have ha := isSavable_read h
  have hm : { a with project.modified := false } = a := by
    rw [← modified_read h]
  by_cases hroom : HasRoom width a.shown
  · rw [write_eq ha hroom] at hw
    obtain ⟨rfl, rfl⟩ := Prod.mk.inj (Except.ok.inj hw)
    rw [read_shown ha ht hl hc, hm]
  · rw [write_too_wide ha.not_hasBare ha.hasShortNumbers (not_hasIllegal_shown ha) hroom] at hw
    cases hw

end Archive

namespace Command

open Process

def Action.output? : Action → Option String
  | .upgrade _ output => output
  | .exportJson _ output => output.filter (· ≠ "")
  | _ => none

section Work

variable {width : Nat} {output : Option String} {a : Archive} {lines : List String} {w w' : World}

lemma isAtomic_exported (output : Option String) (a : Archive) (c : Contract.Collection) :
    (exported output a c).IsAtomic := by
  rw [exported]
  split
  · exact (keepsDisk_pure _).isAtomic
  · refine (isAtomic_ofWriting fun o err h => ?_).bind_of_succeeds fun _ _ => ⟨_, _, rfl⟩
    rw [(Sink.apply_put_error h).1]

lemma exported_eq_ok {c : Contract.Collection}
    (h : (exported output a c).apply w = (.ok lines, w')) :
    w'.disk = w.disk ∨ ∃ path ∈ output.filter (· ≠ ""), ∃ content,
      w.disk.write (Disk.tidy path) content = .ok w'.disk := by
  rw [exported] at h
  split at h
  · cases h
    exact .inl rfl
  · rename_i hne
    obtain ⟨u, v, hw, h⟩ := apply_bind_eq_ok h
    obtain ⟨o, hm, rfl⟩ := ofWriting_eq_ok hw
    have hd := Sink.write_of_put hm
    cases h
    cases output with
    | none => exact absurd rfl hne
    | some path => exact .inr ⟨path, Option.filter_eq_some_iff.mpr ⟨rfl, decide_eq_true hne⟩, _, hd⟩

lemma keepsDisk_check (path : String) : (check path).KeepsDisk := by
  refine keepsDisk_get fun w => (keepsDisk_ofExcept _ _).bind fun content => ?_
  exact (keepsDisk_ofOutcome _).bind fun _ => keepsDisk_pure _

variable [Machine]

lemma keepsDisk_loaded (path : String) : (loaded path).KeepsDisk :=
  keepsDisk_get fun _ => keepsDisk_ofOutcome _

lemma keepsDisk_summary (path : String) : (work width (.summary path)).KeepsDisk :=
  (keepsDisk_loaded path).bind fun _ => keepsDisk_pure _

lemma isAtomic_upgraded (width : Nat) (output : Option String) (a : Archive) :
    (upgraded width output a).IsAtomic := by
  cases output with
  | none =>
    exact (KeepsDisk.bind (keepsDisk_ofExcept _ _) fun _ => keepsDisk_throw _).isAtomic
  | some path =>
    refine (isAtomic_ofWriting fun o err h => ?_).bind_of_succeeds fun _ _ => ⟨_, _, rfl⟩
    exact (Archive.writeTo_error h).1

lemma upgraded_eq_ok (h : (upgraded width output a).apply w = (.ok lines, w')) :
    ∃ path content note, output = some path ∧ a.write width = .ok (content, note) ∧
      w.disk.write path content = .ok w'.disk := by
  cases output with
  | none =>
    obtain ⟨_, _, -, h⟩ := apply_bind_eq_ok h
    cases h
  | some path =>
    obtain ⟨note, v, hw, h⟩ := apply_bind_eq_ok h
    obtain ⟨o, hm, rfl⟩ := ofWriting_eq_ok hw
    obtain ⟨content, hcontent, hd⟩ := Archive.writeTo_path_eq_ok hm
    cases h
    exact ⟨path, content, note, rfl, hcontent, hd⟩

lemma upgrade_eq_ok {input : String} (h : (upgrade width input output).apply w = (.ok lines, w')) :
    ∃ a path content note, (load w.disk input).result = .ok a ∧ output = some path ∧
      a.write width = .ok (content, note) ∧ w.disk.write path content = .ok w'.disk := by
  rw [upgrade] at h
  obtain ⟨a, v, ha, h⟩ := apply_bind_eq_ok h
  obtain ⟨path, content, note, ho, hw, hd⟩ := upgraded_eq_ok h
  rw [keepsDisk_loaded input ha] at hd
  exact ⟨a, path, content, note, loaded_eq_ok ha, ho, hw, hd⟩

/-- All that can fail before something is printed comes before anything is written. -/
lemma isAtomic_work (width : Nat) (action : Action) : (work width action).IsAtomic := by
  cases action with
  | check path => exact (keepsDisk_check path).isAtomic
  | summary path => exact (keepsDisk_summary path).isAtomic
  | upgrade input output =>
    exact (keepsDisk_loaded input).bind_isAtomic (isAtomic_upgraded width output)
  | exportJson path output =>
    refine (keepsDisk_loaded path).bind_isAtomic fun a => ?_
    exact (keepsDisk_ofExcept _ _).bind_isAtomic (isAtomic_exported output a)

lemma work_eq_ok {action : Action} (h : (work width action).apply w = (.ok lines, w')) :
    w'.disk = w.disk ∨ ∃ path ∈ action.output?, ∃ p content,
      w.disk.target p = w.disk.target path ∧ w.disk.write p content = .ok w'.disk := by
  cases action with
  | check path => exact .inl (keepsDisk_check path h)
  | summary path => exact .inl (keepsDisk_summary path h)
  | upgrade input output =>
    obtain ⟨a, path, content, note, -, ho, -, hd⟩ := upgrade_eq_ok h
    exact .inr ⟨path, ho, path, content, rfl, hd⟩
  | exportJson path output =>
    obtain ⟨a, v, ha, h⟩ := apply_bind_eq_ok h
    obtain ⟨c, v', hc, h⟩ := apply_bind_eq_ok h
    have hv : v'.disk = w.disk := (keepsDisk_ofExcept _ _ hc).trans (keepsDisk_loaded path ha)
    rcases exported_eq_ok h with hd | ⟨out, ho, content, hd⟩
    · exact .inl (hd.trans hv)
    · rw [hv] at hd
      exact .inr ⟨out, ho, _, content, Disk.target_tidy _ out, hd⟩

end Work

section Upgrade

variable [Machine] {console : Console} {width : Nat} {d d' : Disk}

lemma disk_perform {action : Action} {lines : List String} {w w' : World}
    (h : (work width action).apply w = (.ok lines, w')) :
    ((perform console width action).apply w).2.disk = w'.disk := by
  rw [apply_perform_ok h]
  exact keepsDisk_prints console lines rfl

lemma load_of_upgrade {input path : String} {a : Archive} {content : List UInt8} {note : Log.Entry}
    (ha : (load d input).result = .ok a) (hw : a.write width = .ok (content, note))
    (hd : d.write path content = .ok d') (hs : d.node? (d.target path) ≠ some .sink) :
    (load d' path).result = .ok a := by
  rw [result_load] at ha ⊢
  obtain ⟨s, -, hread⟩ := bind_eq_ok.mp ha
  rw [Archive.Source.toStream, Disk.read_of_write hd hs]
  exact Archive.read_of_write hread hw rfl (by simp [Stream.ofContent]) rfl

lemma work_upgrade {input path : String} {a : Archive} {content : List UInt8} {note : Log.Entry}
    (ha : (load d input).result = .ok a) (hw : a.write width = .ok (content, note))
    (hd : d.write path content = .ok d') :
    (work width (.upgrade input (some path))).apply (start d) =
      (.ok [countLine "Wrote" a path], ⟨d', (load d input).log ++ [note], []⟩) := by
  have hwrite (log : List Log.Entry) : (ofWriting (a.writeTo width (.path path))).apply
      ⟨d, log, []⟩ = (.ok note, ⟨d', log, []⟩) := by
    rw [apply_ofWriting, Archive.apply_writeTo_ok hw, Sink.apply_put_path (o := ⟨d, []⟩) hd]
    rfl
  exact (apply_bind_ok _ (apply_loaded_ok ha)).trans (apply_bind_ok _ (hwrite _))

lemma perform_eq_error {action : Action} {f : Failure} {w w' : World}
    (h : (perform console width action).apply w = (.error f, w')) :
    w'.disk = w.disk ∨ ∃ v front line back,
      (perform .willing width action).apply w = (.ok (), v) ∧ w'.disk = v.disk ∧
        v.lines = front ++ line :: back ∧ (console front line).isSome = true := by
  rcases apply_bind_eq_error h with hw | ⟨lines, v, hw, hp⟩
  · exact .inl (isAtomic_work width action hw)
  · obtain ⟨front, line, back, r, hl, hr, -, rfl⟩ := prints_eq_error hp
    refine .inr ⟨_, v.lines ++ front, line, back,
      (apply_perform_ok hw).trans (apply_prints_willing _ _), rfl, ?_, Option.isSome_of_eq_some hr⟩
    rw [hl, List.append_assoc]

section Run

variable {env : Environment} {arguments : List String} {verbose : Bool} {action : Action}

lemma runOn_fails (h : (runOn console env arguments d).ending ≠ .status 0) :
    (runOn console env arguments d).disk = d ∨
      ((run env arguments d).ending = .status 0 ∧
        (runOn console env arguments d).disk = (run env arguments d).disk ∧
        ∃ front line back, (run env arguments d).output = front ++ line :: back ∧
          (console front line).isSome = true) := by
  cases hrequest : Request.ofArguments arguments with
  | help => exact .inl (by rw [runOn, hrequest])
  | misuse => exact .inl (by rw [runOn, hrequest])
  | run request =>
    obtain ⟨verbose, action⟩ := request
    cases hlevel : levelFor env verbose with
    | error fault => exact .inl (by simp only [runOn, hrequest, hlevel])
    | ok level =>
      rw [runOn_eq hrequest hlevel] at h ⊢
      rw [run, runOn_eq hrequest hlevel]
      cases hp : (perform console (Settings.indent env.indent) action).apply (start d) with
      | mk r w =>
        cases r with
        | ok u => exact absurd (ending_eq_zero.mpr ⟨w, hp⟩) h
        | error f =>
          rcases perform_eq_error hp with hd | ⟨v, front, line, back, hv, hd, hl, hr⟩
          · exact .inl ((conclude_error hp).2.trans hd)
          · rw [conclude_ok hv]
            exact .inr ⟨rfl, (conclude_error hp).2.trans hd, front, line, back, hl, hr⟩

lemma runOn_eq_zero (hrequest : Request.ofArguments arguments = .run ⟨verbose, action⟩)
    (h : (runOn console env arguments d).ending = .status 0) :
    ∃ lines w, (work (Settings.indent env.indent) action).apply (start d) = (.ok lines, w) ∧
      (runOn console env arguments d).disk = w.disk := by
  cases hlevel : levelFor env verbose with
  | error fault =>
    simp only [runOn, hrequest, hlevel] at h
    cases h
  | ok level =>
    rw [runOn_eq hrequest hlevel] at h ⊢
    obtain ⟨w, hw⟩ := ending_eq_zero.mp h
    obtain ⟨lines, v, hwork, -⟩ := apply_bind_eq_ok hw
    exact ⟨lines, v, hwork, disk_conclude.trans (disk_perform hwork)⟩

end Run

/-- A command that does not end well leaves all files as they were, unless it has done all its work
and only failed to print a line of what it has to say. One that ends well changes its output only.
The output of an upgrade, unless it is a sink, is then read as the input was before, and to upgrade
it in place changes nothing more. -/
theorem run_changes_only_output (console : Console) (env : Environment) (arguments : List String)
    (d : Disk) :
    let done := runOn console env arguments d
    (done.ending ≠ .status 0 → done.disk = d ∨
      ((run env arguments d).ending = .status 0 ∧ done.disk = (run env arguments d).disk ∧
        ∃ front line back, (run env arguments d).output = front ++ line :: back ∧
          (console front line).isSome = true)) ∧
      ∀ verbose action, Request.ofArguments arguments = .run ⟨verbose, action⟩ →
        done.ending = .status 0 →
        done.disk.links = d.links ∧
        (∀ place, (∀ path ∈ action.output?, place ≠ d.target path) →
          done.disk.node? place = d.node? place) ∧
        ∀ input output, action = .upgrade input output →
          ∃ path a, output = some path ∧ (load d input).result = .ok a ∧
            (d.node? (d.target path) ≠ some .sink →
              (load done.disk path).result = .ok a ∧
                ∀ console' env' arguments' verbose', env'.indent = env.indent →
                  Request.ofArguments arguments' = .run ⟨verbose', .upgrade path (some path)⟩ →
                  (runOn console' env' arguments' done.disk).disk = done.disk ∧
                    ∀ level, levelFor env' verbose' = .ok level →
                      (run env' arguments' done.disk).ending = .status 0) := by
  refine ⟨runOn_fails, fun verbose action hrequest hzero => ?_⟩
  obtain ⟨lines, w, hwork, hdisk⟩ := runOn_eq_zero hrequest hzero
  have hchange := work_eq_ok hwork
  rw [hdisk]
  refine ⟨?_, fun place hp => ?_, ?_⟩
  · rcases hchange with hd | ⟨_, -, _, _, -, hd⟩
    · rw [hd]
      rfl
    · exact Disk.links_of_write hd
  · rcases hchange with hd | ⟨path, ho, p, content, ht, hd⟩
    · rw [hd]
      rfl
    · exact Disk.node?_of_write hd (ht ▸ hp path ho)
  · rintro input output rfl
    obtain ⟨a, path, content, note, ha, ho, hw, hd⟩ := upgrade_eq_ok hwork
    refine ⟨path, a, ho, ha, fun hs => ?_⟩
    have hload := load_of_upgrade (d := d) ha hw hd hs
    refine ⟨hload, fun console' env' arguments' verbose' hindent hrequest' => ?_⟩
    have hagain := work_upgrade hload hw (Disk.write_again hd)
    rw [← hindent] at hagain
    cases hlevel' : levelFor env' verbose' with
    | error fault =>
      refine ⟨?_, nofun⟩
      simp only [runOn, hrequest', hlevel']
    | ok level' =>
      rw [run, runOn_eq hrequest' hlevel', runOn_eq hrequest' hlevel']
      refine ⟨disk_conclude.trans ((disk_perform hagain).trans rfl), fun _ _ => ending_eq_zero.mpr ?_⟩
      exact ⟨_, (apply_perform_ok hagain).trans (apply_prints_willing _ _)⟩

end Upgrade

section Files

attribute [local instance] Machine.usual

open Archive (serialize small)

lemma run_upgrade_small {d d' : Disk} {path : String}
    (hrequest : Request.ofArguments ["upgrade", "a.xml", path] =
      .run ⟨false, .upgrade "a.xml" (some path)⟩)
    (hr : d.read "a.xml" = .ok (serialize 2 small.shown))
    (hd : d.write path (serialize 2 small.shown) = .ok d') :
    (load d "a.xml").result = .ok small ∧ ∀ console,
      (runOn console ⟨none, none⟩ ["upgrade", "a.xml", path] d).disk = d' ∧
        ((runOn console ⟨none, none⟩ ["upgrade", "a.xml", path] d).ending = .status 0 ↔
          console [] (countLine "Wrote" small path) = none) := by
  have hload : (load d "a.xml").result = .ok small := by
    rw [result_load, Archive.Source.toStream, hr]
    exact read_small
  have hlevel : levelFor ⟨none, none⟩ false = .ok Settings.defaultLevel := rfl
  have hwork := work_upgrade hload (Archive.write_eq Archive.isSavable_small ⟨by decide, rfl⟩) hd
  refine ⟨hload, fun console => ?_⟩
  rw [runOn_eq hrequest hlevel]
  refine ⟨disk_conclude.trans ((disk_perform hwork).trans rfl), ending_eq_zero.trans ?_⟩
  rw [show Settings.indent none = 2 from rfl, apply_perform_ok hwork, List.forM]
  cases hc : console [] (countLine "Wrote" small path) with
  | none => exact iff_of_true ⟨_, apply_bind_ok _ (apply_print_taken hc)⟩ rfl
  | some r =>
    rw [apply_bind_error _ (apply_print_refused hc)]
    refine iff_of_false (fun hw => ?_) (fun hn => ?_)
    · obtain ⟨w, hw⟩ := hw
      cases hw
    · cases hn

def plain : Console := fun _ line =>
  if line.toList.all (·.val < 128) then none else some (.unshowable "ordinal not in range(128)")

lemma run_upgrade_unshown : ∃ d', (diskOf (serialize 2 small.shown)).node? ["é.xml"] = none ∧
    d'.node? ["é.xml"] = some (.file (serialize 2 small.shown)) ∧ ∀ console,
      (runOn console ⟨none, none⟩ ["upgrade", "a.xml", "é.xml"]
        (diskOf (serialize 2 small.shown))).disk = d' ∧
      ((runOn console ⟨none, none⟩ ["upgrade", "a.xml", "é.xml"]
        (diskOf (serialize 2 small.shown))).ending = .status 0 ↔
          console [] "Wrote 1 bug instance(s) to é.xml" = none) := by
  have hrequest : Request.ofArguments ["upgrade", "a.xml", "é.xml"] =
      .run ⟨false, .upgrade "a.xml" (some "é.xml")⟩ := by decide
  have hleads : (diskOf (serialize 2 small.shown)).LeadsToFile "é.xml" :=
    ⟨rfl, rfl, rfl, fun _ hn => by cases hn⟩
  exact ⟨_, rfl, hleads.node?_put_self _, (run_upgrade_small hrequest rfl (hleads.write_eq _)).2⟩

theorem run_upgrade_in_place : ∃ done failed,
    run ⟨none, none⟩ ["upgrade", "a.xml", "a.xml"] (diskOf (serialize 2 small.shown)) = done ∧
      done.ending = .status 0 ∧ (load done.disk "a.xml").result = .ok small ∧
      (run ⟨none, none⟩ ["upgrade", "a.xml", "a.xml"] done.disk).disk = done.disk ∧
    runOn plain ⟨none, none⟩ ["upgrade", "a.xml", "é.xml"] (diskOf (serialize 2 small.shown)) =
        failed ∧
      failed.ending ≠ .status 0 ∧
      failed.disk =
        (run ⟨none, none⟩ ["upgrade", "a.xml", "é.xml"] (diskOf (serialize 2 small.shown))).disk := by
  have hleads : (diskOf (serialize 2 small.shown)).LeadsToFile "a.xml" :=
    ⟨rfl, rfl, rfl, fun _ hn => ⟨_, (Option.some.inj hn).symm⟩⟩
  have hrequest : Request.ofArguments ["upgrade", "a.xml", "a.xml"] =
      .run ⟨false, .upgrade "a.xml" (some "a.xml")⟩ := by decide
  obtain ⟨hload, hrun⟩ := run_upgrade_small hrequest rfl (hleads.write_eq _)
  have hzero := (hrun .willing).2.mpr rfl
  obtain ⟨-, -, h⟩ := (run_changes_only_output .willing ⟨none, none⟩ _ _).2 _ _ hrequest hzero
  obtain ⟨path, a, ho, ha, h⟩ := h _ _ rfl
  obtain rfl := Option.some.inj ho
  obtain rfl := Except.ok.inj (hload.symm.trans ha)
  obtain ⟨hdone, hagain⟩ := h fun hs => by cases hs
  obtain ⟨d', hold, hnew, hfail⟩ := run_upgrade_unshown
  have hne := mt (hfail plain).2.mp (by decide)
  refine ⟨_, _, rfl, hzero, hdone, (hagain .willing _ _ _ rfl hrequest).1, rfl, hne, ?_⟩
  rcases (run_changes_only_output plain ⟨none, none⟩ _ _).1 hne with hd | ⟨-, hd, -⟩
  · rw [(hfail plain).1] at hd
    rw [hd, hold] at hnew
    cases hnew
  · exact hd

def withSink (content : List UInt8) : Disk :=
  ⟨[(["a.xml"], .file content), (["/", "dev", "null"], .sink)], []⟩

/-- What was upgraded into a sink is lost, and an upgrade into a file whose name cannot be shown
fails when the file is there. -/
theorem run_upgrade_to_sink : ∃ lost failed,
    run ⟨none, none⟩ ["upgrade", "a.xml", "/dev/null"] (withSink (serialize 2 small.shown)) =
        lost ∧
      (load (withSink (serialize 2 small.shown)) "a.xml").result = .ok small ∧
      lost.ending = .status 0 ∧
      (load lost.disk "/dev/null").result = .error (.truncated 0 60) ∧
    runOn plain ⟨none, none⟩ ["upgrade", "a.xml", "é.xml"] (diskOf (serialize 2 small.shown)) =
        failed ∧
      failed.ending ≠ .status 0 ∧
      (diskOf (serialize 2 small.shown)).node? ["é.xml"] = none ∧
      failed.disk.node? ["é.xml"] = some (.file (serialize 2 small.shown)) := by
  have hsink : Request.ofArguments ["upgrade", "a.xml", "/dev/null"] =
      .run ⟨false, .upgrade "a.xml" (some "/dev/null")⟩ := by decide
  have hlost : (withSink (serialize 2 small.shown)).write "/dev/null" (serialize 2 small.shown) =
      .ok (withSink (serialize 2 small.shown)) := rfl
  obtain ⟨hload, hrun⟩ := run_upgrade_small hsink rfl hlost
  obtain ⟨d', hold, hnew, hfail⟩ := run_upgrade_unshown
  refine ⟨_, _, rfl, hload, (hrun .willing).2.mpr rfl, ?_, rfl, ?_, hold, ?_⟩
  · rw [run, (hrun .willing).1, result_load]
    change (Archive.read .builtin (.ofContent []) .empty).result = _
    rw [Archive.result_read, Archive.decode_nil]
    rfl
  · exact mt (hfail plain).2.mp (by decide)
  · rw [(hfail plain).1]
    exact hnew

end Files

end Command

end BugArchive
