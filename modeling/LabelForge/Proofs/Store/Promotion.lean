import LabelForge.Proofs.Store.Entry

/-!
# LabelForge.Proofs.Store.Promotion

**What a promotion does to the entries of the root.** It keeps the entry that is there, or puts
an entry that holds the artifact in its place, or fails and leaves the entry as it was. Beside the
entry it touches two hidden names only; a promotion that succeeds leaves nothing behind under
them.
-/

namespace LabelForge

open FileTree (Entries)

namespace Store

/-! ### Hidden names -/

/-- The name under which an entry is written. -/
abbrev staging (f : Fingerprint) (tag : String) : FileName := .text (sibling f "staging" tag)

/-- The name under which an entry is removed. -/
abbrev retired (f : Fingerprint) (tag : String) : FileName := .text (sibling f "retired" tag)

theorem toList_sibling (f : Fingerprint) (kind tag : String) :
    (sibling f kind tag).toList =
      '.' :: (kind.toList ++ '-' :: (f.short.toList ++ '-' :: tag.toList)) := by
  simp [sibling, String.toList_append, toString]

/-- No fingerprint is a hidden name. -/
theorem sibling_ne_text (f g : Fingerprint) (kind tag : String) : sibling f kind tag ≠ g.text := by
  intro same
  have dot : '.' ∈ g.text.toList := by
    rw [← same, toList_sibling]
    exact List.mem_cons_self ..
  cases g.isHex.digits '.' dot

theorem staging_ne_text (f g : Fingerprint) (tag : String) : staging f tag ≠ .text g.text :=
  fun same => sibling_ne_text f g _ tag (FileName.text.inj same)

theorem retired_ne_text (f g : Fingerprint) (tag : String) : retired f tag ≠ .text g.text :=
  fun same => sibling_ne_text f g _ tag (FileName.text.inj same)

theorem staging_ne_retired (f : Fingerprint) (tag : String) : staging f tag ≠ retired f tag := by
  intro same
  have texts := congrArg String.toList (FileName.text.inj same)
  simp [toList_sibling] at texts

/-- Hidden names of one kind differ in their tags, and those of another kind are others. -/
theorem sibling_inj {f : Fingerprint} {kind kind' tag tag' : String}
    (long : kind.toList.length = kind'.toList.length)
    (same : sibling f kind tag = sibling f kind' tag') : kind = kind' ∧ tag = tag' := by
  have texts := congrArg String.toList same
  rw [toList_sibling, toList_sibling, List.cons.injEq] at texts
  obtain ⟨kinds, texts⟩ := List.append_inj texts.2 long
  obtain ⟨-, texts⟩ := List.append_inj (List.cons.inj texts).2 rfl
  exact ⟨String.toList_inj.1 kinds, String.toList_inj.1 (List.cons.inj texts).2⟩

/-! ### The steps of a promotion -/

variable {s : Store} {files : FileTree} {es fs : Entries} {a : Artifact} {name : String}

/-- There is no device among the entries of a directory. -/
def Deviceless (fs : Entries) : Prop :=
  ∀ name kind, fs.find? name ≠ some (.device kind)

/-- If there is a directory of the name, no device is in it. -/
def Regular (es : Entries) (name : FileName) : Prop :=
  ∀ fs, es.find? name = some (.directory fs) → Deviceless fs

/-- The files of an entry that is written into a directory. -/
def written (a : Artifact) (fs : Entries) : Entries :=
  (fs.set (.text a.manifest.language.fileName) (.file (Text.bytesOf a.source))).set
    (.text manifestFile) (.file (Text.bytesOf a.manifest.print))

theorem fileName_ne_manifestFile (l : Language) : l.fileName ≠ manifestFile := by
  cases l <;> decide

/-- A directory with the files of an artifact holds it. -/
theorem holds_written
    (found : es.find? (.text a.fingerprint.text) = some (.directory (written a fs))) :
    Holds es a := by
  refine ⟨_, found, ?_, Entries.find?_set_self ..⟩
  have other : FileName.text a.manifest.language.fileName ≠ .text manifestFile :=
    fun same => fileName_ne_manifestFile _ (FileName.text.inj same)
  rw [written, Entries.find?_set_ne other, Entries.find?_set_self]

/-- The hidden directory is made, unless something else has its name. -/
theorem exec_makeStaging (h : s.Contains files es) (step : StoreStep) (shown : FilePath) :
    (∃ es' fs, exec (change (.ask (.makeDirs (s.place name))) step shown) files =
        (.ok (), s.fill files es') ∧ es'.find? (.text name) = some (.directory fs) ∧
          es.Differ [.text name] es' ∧
          (es.find? (.text name) = some (.directory fs) ∨ fs = .none)) ∨
      (∃ e, exec (change (.ask (.makeDirs (s.place name))) step shown) files =
        (.error e, files)) ∧ es.find? (.text name) ≠ none := by
  rw [exec_makeDirs]
  cases found : es.find? (.text name) with
  | none =>
      rw [place, FileTree.makeDirs_new h found]
      exact .inl ⟨_, .none, rfl, Entries.find?_set_self .., .set es (List.mem_singleton_self _) _,
        .inr rfl⟩
  | some node =>
      rw [place, FileTree.makeDirs_taken h found]
      cases node with
      | directory fs =>
          refine .inl ⟨es, fs, ?_, found, .refl _ es, .inl rfl⟩
          rw [h.fill_self]
          rfl
      | _ => exact .inr ⟨⟨_, rfl⟩, Option.some_ne_none _⟩

/-- A file is written into the directory of an entry, unless a directory or a full device has its
name; a device that takes the text keeps nothing of it. -/
theorem exec_writeFile (h : s.Contains files es)
    (found : es.find? (.text name) = some (.directory fs)) (file content : String)
    (step : StoreStep) (shown : FilePath) :
    (∃ fs', exec (change (.ask (.writeText (s.place name ++ [.text file]) content)) step shown)
        files = (.ok (), s.fill files (es.set (.text name) (.directory fs'))) ∧
          ((∃ kind, fs.find? (.text file) = some (.device kind)) ∨
            fs' = fs.set (.text file) (.file (Text.bytesOf content)))) ∨
      (∃ e, exec (change (.ask (.writeText (s.place name ++ [.text file]) content)) step shown)
        files = (.error e, files)) ∧ fs.find? (.text file) ≠ none := by
  rw [exec_writeText, place]
  cases taken : fs.find? (.text file) with
  | none =>
      rw [FileTree.write_file h found (by simp [taken])]
      exact .inl ⟨_, rfl, .inr rfl⟩
  | some node =>
      cases node with
      | file old =>
          rw [FileTree.write_file h found (by simp [taken])]
          exact .inl ⟨_, rfl, .inr rfl⟩
      | device kind =>
          rcases FileTree.write_device h found taken (Text.bytesOf content) with same | ⟨e, refused⟩
          · rw [same]
            refine .inl ⟨fs, ?_, .inl ⟨kind, rfl⟩⟩
            rw [Entries.set_same found, h.fill_self]
            rfl
          · rw [refused]
            exact .inr ⟨⟨_, rfl⟩, Option.some_ne_none _⟩
      | directory below =>
          rw [FileTree.write_directory h found taken]
          exact .inr ⟨⟨_, rfl⟩, Option.some_ne_none _⟩

/-- Both files of an artifact are written, or the hidden directory had something in it. -/
theorem exec_writeEntry (h : s.Contains files es)
    (found : es.find? (.text name) = some (.directory fs)) (a : Artifact) :
    (∃ fs', exec (s.writeEntry name a) files =
        (.ok (), s.fill files (es.set (.text name) (.directory fs'))) ∧
          (Deviceless fs → fs' = written a fs)) ∨
      fs ≠ .none ∧ ∃ e es' fs', exec (s.writeEntry name a) files = (.error e, s.fill files es') ∧
        es'.find? (.text name) = some (.directory fs') ∧ es.Differ [.text name] es' := by
  have mem : FileName.text name ∈ [FileName.text name] := List.mem_singleton_self _
  have other : FileName.text manifestFile ≠ .text a.manifest.language.fileName :=
    fun same => fileName_ne_manifestFile _ (FileName.text.inj same).symm
  simp only [writeEntry, exec_bind]
  rcases exec_writeFile h found a.manifest.language.fileName a.source .write
    ((s.root.child name).child a.manifest.language.fileName) with
    ⟨fs₁, program, written₁⟩ | ⟨⟨e, program⟩, taken⟩
  · -- the second file is written into the directory that the first one left
    have contains := h.fill (es.set (.text name) (.directory fs₁))
    have first (free : Deviceless fs) :
        fs₁ = fs.set (.text a.manifest.language.fileName) (.file (Text.bytesOf a.source)) :=
      written₁.resolve_left fun ⟨kind, device⟩ => free _ kind device
    rw [program]
    rcases exec_writeFile contains (Entries.find?_set_self ..) manifestFile a.manifest.print .write
      ((s.root.child name).child manifestFile) with
      ⟨fs₂, manifest, written₂⟩ | ⟨⟨e, manifest⟩, taken⟩
    · refine .inl ⟨fs₂, manifest.trans ?_, fun free => ?_⟩
      · rw [h.fill_fill, Entries.set_set]
      · rw [first free, Entries.find?_set_ne other] at written₂
        exact written₂.resolve_left fun ⟨kind, device⟩ => free _ kind device
    · refine .inr ⟨?_, e, _, _, manifest, Entries.find?_set_self .., .set es mem _⟩
      rintro rfl
      rw [first (fun _ _ => nofun), Entries.find?_set_ne other] at taken
      exact taken rfl
  · rw [program]
    refine .inr ⟨?_, e, es, fs, by rw [h.fill_self], found, .refl _ es⟩
    rintro rfl
    exact taken rfl

/-- A directory of the root is discarded. -/
theorem exec_discard_entry (h : s.Contains files es)
    (found : es.find? (.text name) = some (.directory fs)) :
    exec (discard (s.place name)) files = (.ok (), s.fill files (es.erase (.text name))) := by
  rw [exec_discard, place, FileTree.removeDir_entry h found]
  rfl

/-- A directory of the root gets a name that is free; otherwise it may be refused. -/
theorem Contains.rename (h : s.Contains files es)
    (found : es.find? (.text name) = some (.directory fs)) (other : String) :
    files.rename (s.place name) (s.place other) =
        .ok (s.fill files ((es.erase (.text name)).set (.text other) (.directory fs))) ∨
      (∃ e, files.rename (s.place name) (s.place other) = .error e) ∧
        es.find? (.text other) ≠ none :=
  FileTree.rename_directory h found (.text other)

/-- The files of an artifact are written under a hidden name that is free; under one that is taken
this may fail, and then nothing is left of it. -/
theorem exec_stage (h : s.Contains files es) (name : String) (a : Artifact) :
    (∃ es' fs', exec (s.stage name a) files = (.ok (), s.fill files es') ∧
        es'.find? (.text name) = some (.directory fs') ∧
        (Regular es (.text name) → ∃ fs, fs' = written a fs) ∧ es.Differ [.text name] es') ∨
      (∃ e es', exec (s.stage name a) files = (.error e, s.fill files es') ∧
        es.Differ [.text name] es') ∧ es.find? (.text name) ≠ none := by
  have mem : FileName.text name ∈ [FileName.text name] := List.mem_singleton_self _
  rcases exec_makeStaging h .create (s.root.child name) with
    ⟨es₁, fs, made, found, differ, origin⟩ | ⟨⟨e, refused⟩, taken⟩
  · have contains := h.fill es₁
    have free (regular : Regular es (.text name)) : Deviceless fs := by
      rcases origin with before | rfl
      · exact regular fs before
      · exact fun _ _ => nofun
    -- a new directory is empty, and one that was there is as it was
    rcases exec_writeEntry contains found a with
      ⟨fs', wrote, full⟩ | ⟨busy, e, es₂, fs', failed, found₂, differ₂⟩
    · refine .inl ⟨es₁.set (.text name) (.directory fs'), fs', ?_, Entries.find?_set_self ..,
        fun regular => ⟨fs, full (free regular)⟩, differ.trans (.set es₁ mem _)⟩
      simp only [stage, exec_bind, made, exec_tryCatch, wrote, h.fill_fill]
    · have removed := exec_discard_entry (contains.fill es₂) found₂
      simp only [h.fill_fill] at removed
      have same := (differ.trans differ₂).trans (.erase es₂ mem)
      refine .inr ⟨⟨e, es₂.erase (.text name), ?_, same⟩, ?_⟩
      · simp only [stage, exec_bind, made, exec_tryCatch, failed, h.fill_fill, removed, exec_throw]
      · rcases origin with before | empty
        · simp [before]
        · exact absurd empty busy
  · refine .inr ⟨⟨e, es, ?_, .refl _ es⟩, taken⟩
    simp only [stage, exec_bind, refused, h.fill_self]

/-- The entry of a fingerprint is moved away, unless its hidden name is taken. -/
theorem exec_retire (h : s.Contains files es) (f : Fingerprint) (tag : String) :
    (∃ es', exec (s.retire f tag) files = (.ok (files.isDirAt (s.place f.text)), s.fill files es') ∧
        es.Differ [.text f.text, retired f tag] es' ∧
        es'.find? (.text f.text) =
          (if files.isDirAt (s.place f.text) then none else es.find? (.text f.text)) ∧
        (es'.find? (retired f tag) = none ∨
          es'.find? (retired f tag) = es.find? (retired f tag))) ∨
      (∃ e, exec (s.retire f tag) files = (.error e, files)) ∧
        es.find? (retired f tag) ≠ none := by
  have mem : FileName.text f.text ∈ [FileName.text f.text, retired f tag] := List.mem_cons_self ..
  have mem' : retired f tag ∈ [FileName.text f.text, retired f tag] := by simp
  have hidden : FileName.text f.text ≠ retired f tag := (retired_ne_text f f tag).symm
  cases present : files.isDirAt (s.place f.text) with
  | false =>
      refine .inl ⟨es, ?_, .refl _ es, rfl, .inr rfl⟩
      simp only [retire, exec_bind, exec_isDir, present, Bool.false_eq_true, if_false, exec_pure,
        h.fill_self]
  | true =>
      obtain ⟨fs, found⟩ := (h.isDirAt_iff f.text).mp present
      rcases h.rename found (sibling f "retired" tag) with moved | ⟨⟨e, refused⟩, taken⟩
      · have contains := h.fill ((es.erase (.text f.text)).set (retired f tag) (.directory fs))
        have removed := exec_discard_entry contains (Entries.find?_set_self ..)
        rw [h.fill_fill] at removed
        refine .inl ⟨((es.erase (.text f.text)).set (retired f tag) (.directory fs)).erase
          (retired f tag), ?_, ?_, ?_, .inl (Entries.find?_erase_self ..)⟩
        · simp only [retire, exec_bind, exec_isDir, present, if_true, exec_rename, moved, tried,
            removed, exec_pure]
        · exact ((Entries.Differ.erase es mem).trans (.set _ mem' _)).trans (.erase _ mem')
        · rw [Entries.find?_erase_ne hidden, Entries.find?_set_ne hidden, Entries.find?_erase_self]
          rfl
      · refine .inr ⟨⟨.io .retire (s.entryPath f) e, ?_⟩, taken⟩
        simp only [retire, exec_bind, exec_isDir, present, if_true, exec_rename, refused, tried]

/-- The hidden directory becomes the entry, unless something has its name. -/
theorem exec_install (h : s.Contains files es) (f : Fingerprint) (name : String)
    (found : es.find? (.text name) = some (.directory fs))
    (other : FileName.text f.text ≠ .text name)
    (notDir : files.isDirAt (s.place f.text) = false) (replaced : Bool) :
    exec (s.install f name replaced) files =
        (.ok (if replaced then .replaced else .created),
          s.fill files ((es.erase (.text name)).set (.text f.text) (.directory fs))) ∨
      (∃ e, exec (s.install f name replaced) files =
        (.error e, s.fill files (es.erase (.text name)))) ∧ es.find? (.text f.text) ≠ none := by
  rcases h.rename found f.text with moved | ⟨⟨e, refused⟩, taken⟩
  · refine .inl ?_
    simp only [install, exec_bind, exec_askRename, moved, FileOp.changed, exec_pure]
  · have removed := exec_discard_entry h found
    have still : (s.fill files (es.erase (.text name))).isDirAt (s.place f.text) = false := by
      rw [(h.fill _).isDirAt, Entries.find?_erase_ne other, ← h.isDirAt]
      exact notDir
    refine .inr ⟨⟨.io .rename (s.entryPath f) e, ?_⟩, taken⟩
    simp only [install, exec_bind, exec_askRename, refused, FileOp.changed, removed,
      exec_isDir, still, Bool.false_eq_true, if_false, exec_throw]

/-! ### The whole promotion -/

/-- The names that a promotion may touch. -/
abbrev touched (f : Fingerprint) (tag : String) : List FileName :=
  [.text f.text, staging f tag, retired f tag]

/-- What a promotion returns and makes of the entries of the root, given what reading the entry
of the fingerprint would give. -/
inductive Promoted (a : Artifact) (replace : Bool) (tag : String) (present : Bool)
    (existing : Except StoreError Artifact) (es : Entries) :
    Except StoreError Promotion → Entries → Prop where
  /-- The entry that is there is kept and returned. -/
  | kept (there : present = true) (once : replace = false) :
    Promoted a replace tag present existing es (existing.map .alreadyPresent) es
  /-- An entry with the artifact is put in its place; only a device that was in the hidden directory
  before could have swallowed a file of it. -/
  | stored {es' : Entries} (mode : present = true → replace = true)
      (holds : Regular es (staging a.fingerprint tag) → Holds es' a)
      (differ : es.Differ (touched a.fingerprint tag) es')
      (staged : es'.find? (staging a.fingerprint tag) = none)
      (gone : es'.find? (retired a.fingerprint tag) = none ∨
        es'.find? (retired a.fingerprint tag) = es.find? (retired a.fingerprint tag)) :
    Promoted a replace tag present existing es
      (.ok (if present then .replaced else .created)) es'
  /-- Something stands in the way; the entry stays as it is. -/
  | failed {es' : Entries} (e : StoreError)
      (blocked : es.find? (staging a.fingerprint tag) ≠ none ∨
        es.find? (retired a.fingerprint tag) ≠ none ∨
        (es.find? (.text a.fingerprint.text) ≠ none ∧ present = false))
      (differ : es.Differ (touched a.fingerprint tag) es')
      (own : es'.find? (.text a.fingerprint.text) = es.find? (.text a.fingerprint.text)) :
    Promoted a replace tag present existing es (.error e) es'

/-- The entry that is there is read, and nothing changes. -/
theorem exec_keep (s : Store) (f : Fingerprint) (files : FileTree) :
    exec (s.keep f) files = ((exec (s.readEntry f.text) files).1.map .alreadyPresent, files) := by
  have same := (seesOnly_readEntry s f.text).unchanged files
  rw [keep, exec_bind]
  rcases read : exec (s.readEntry f.text) files with ⟨e | existing, after⟩ <;> rw [read] at same
  · exact congrArg _ same
  · exact congrArg _ same

/-- The old entry gives way to the hidden directory; where a name is taken, it stays. -/
theorem exec_exchange (h : s.Contains files es) (f : Fingerprint) (tag : String)
    (found : es.find? (staging f tag) = some (.directory fs)) :
    (∃ es', exec (s.retire f tag >>= s.install f (sibling f "staging" tag)) files =
        (.ok (if files.isDirAt (s.place f.text) then .replaced else .created), s.fill files es') ∧
        es'.find? (.text f.text) = some (.directory fs) ∧ es.Differ (touched f tag) es' ∧
        es'.find? (staging f tag) = none ∧ (es'.find? (retired f tag) = none ∨
          es'.find? (retired f tag) = es.find? (retired f tag))) ∨
      (∃ e es', exec (s.retire f tag >>= s.install f (sibling f "staging" tag)) files =
        (.error e, s.fill files es') ∧ es.Differ (touched f tag) es' ∧
        es'.find? (.text f.text) = es.find? (.text f.text)) ∧
        (es.find? (retired f tag) ≠ none ∨
          es.find? (.text f.text) ≠ none ∧ files.isDirAt (s.place f.text) = false) := by
  have st_rt := staging_ne_retired f tag
  rcases exec_retire h f tag with ⟨es₁, retire, differ₁, own₁, gone₁⟩ | ⟨⟨e, refused⟩, taken⟩
  · have contains₁ := h.fill es₁
    have found₁ : es₁.find? (staging f tag) = some (.directory fs) :=
      (differ₁.same _ (by simp [sibling_ne_text, st_rt])).trans found
    have wide₁ : es.Differ (touched f tag) es₁ := differ₁.mono (by simp)
    have notDir : (s.fill files es₁).isDirAt (s.place f.text) = false := by
      rw [contains₁.isDirAt, own₁]
      cases present : files.isDirAt (s.place f.text) with
      | true => rfl
      | false =>
          rw [h.isDirAt] at present
          exact present
    have start : exec (s.retire f tag >>= s.install f (sibling f "staging" tag)) files =
        exec (s.install f (sibling f "staging" tag) (files.isDirAt (s.place f.text)))
          (s.fill files es₁) := by
      simp only [exec_bind, retire]
    rcases exec_install contains₁ f _ found₁ (staging_ne_text f f tag).symm notDir
      (files.isDirAt (s.place f.text)) with moved | ⟨⟨e, refused⟩, taken⟩
    · refine .inl ⟨_, (start.trans moved).trans (by rw [h.fill_fill]), Entries.find?_set_self ..,
        (wide₁.trans (.erase es₁ (by simp))).trans (.set _ (by simp) _), ?_, ?_⟩
      · rw [Entries.find?_set_ne (staging_ne_text f f tag), Entries.find?_erase_self]
      · rw [Entries.find?_set_ne (retired_ne_text f f tag), Entries.find?_erase_ne st_rt.symm]
        exact gone₁
    · -- the entry was not moved away, for then its name would be free
      cases present : files.isDirAt (s.place f.text) with
      | true =>
          rw [present, if_pos rfl] at own₁
          exact absurd own₁ taken
      | false =>
          rw [present, if_neg Bool.false_ne_true] at own₁
          rw [own₁] at taken
          refine .inr ⟨⟨e, es₁.erase (staging f tag),
            (start.trans refused).trans (by rw [h.fill_fill]), wide₁.trans (.erase es₁ (by simp)),
            ?_⟩, .inr ⟨taken, rfl⟩⟩
          rw [Entries.find?_erase_ne (staging_ne_text f f tag).symm, own₁]
  · refine .inr ⟨⟨e, es, ?_, .refl _ es, rfl⟩, .inl taken⟩
    simp only [exec_bind, refused, h.fill_self]

/-- A promotion alone is one of the three. -/
theorem exec_promote (h : s.Contains files es) (a : Artifact) (replace : Bool) (tag : String) :
    ∃ result es', exec (s.promote a replace tag) files = (result, s.fill files es') ∧
      Promoted a replace tag (files.isDirAt (s.place a.fingerprint.text))
        (exec (s.readEntry a.fingerprint.text) files).1 es result es' := by
  cases keeping : files.isDirAt (s.place a.fingerprint.text) && !replace with
  | true =>
      refine ⟨_, es, ?_, .kept (Bool.and_eq_true_iff.mp keeping).1
        (by simpa using (Bool.and_eq_true_iff.mp keeping).2)⟩
      simp only [promote, exec_bind, exec_isDir, keeping, if_true, exec_keep, h.fill_self]
  | false =>
      have start : exec (s.promote a replace tag) files =
          exec (s.stage (sibling a.fingerprint "staging" tag) a >>= fun _ =>
            s.retire a.fingerprint tag >>=
              s.install a.fingerprint (sibling a.fingerprint "staging" tag)) files := by
        simp only [promote, exec_bind, exec_isDir, keeping, Bool.false_eq_true, if_false]
      rcases exec_stage h (sibling a.fingerprint "staging" tag) a with
        ⟨es₁, fs, staged, found₁, full, differ₁⟩ | ⟨⟨e, es₁, failed, differ₁⟩, taken⟩
      · -- beside the hidden directory everything is still as it was
        have own₁ : es₁.find? (.text a.fingerprint.text) = es.find? (.text a.fingerprint.text) :=
          differ₁.same _ (by simpa using (staging_ne_text _ _ tag).symm)
        have rt₁ : es₁.find? (retired a.fingerprint tag) = es.find? (retired a.fingerprint tag) :=
          differ₁.same _ (by simpa using (staging_ne_retired a.fingerprint tag).symm)
        have present₁ : (s.fill files es₁).isDirAt (s.place a.fingerprint.text) =
            files.isDirAt (s.place a.fingerprint.text) := by
          rw [(h.fill es₁).isDirAt, h.isDirAt, own₁]
        have wide₁ : es.Differ (touched a.fingerprint tag) es₁ := differ₁.mono (by simp)
        rw [exec_bind, staged] at start
        rcases exec_exchange (h.fill es₁) a.fingerprint tag found₁ with
          ⟨es₂, exchanged, found₂, differ₂, staged₂, gone₂⟩ |
            ⟨⟨e, es₂, refused, differ₂, own₂⟩, blocked⟩
        · rw [present₁, h.fill_fill] at exchanged
          refine ⟨_, es₂, start.trans exchanged, .stored (fun present => ?_) (fun regular => ?_)
            (wide₁.trans differ₂) staged₂ (rt₁ ▸ gone₂)⟩
          · rw [present] at keeping
            simpa using keeping
          · obtain ⟨fs, rfl⟩ := full regular
            exact holds_written found₂
        · rw [present₁, own₁, rt₁] at blocked
          rw [h.fill_fill] at refused
          exact ⟨.error e, es₂, start.trans refused,
            .failed e (.inr blocked) (wide₁.trans differ₂) (own₂.trans own₁)⟩
      · refine ⟨.error e, es₁, ?_, .failed e (.inl taken) (differ₁.mono (by simp)) ?_⟩
        · rw [start, exec_bind, failed]
        · exact differ₁.same _ (by simpa using (staging_ne_text _ _ tag).symm)

/-! ### A promotion that succeeds -/

/-- No device is in the directory of a name, if there is one. -/
def DevicelessAt (s : Store) (name : String) (files : FileTree) : Prop :=
  ∀ file kind, files.at? (s.place name ++ [file]) ≠ some (.device kind)

/-- No device is in a hidden directory in which the entry of a fingerprint is written. -/
def Clear (s : Store) (f : Fingerprint) (files : FileTree) : Prop :=
  ∀ tag, s.DevicelessAt (sibling f "staging" tag) files

theorem Contains.devicelessAt_iff (h : s.Contains files es) :
    s.DevicelessAt name files ↔ Regular es (.text name) := by
  constructor
  · intro free fs found file kind device
    refine free file kind ?_
    rw [place, FileTree.at?_file h found]
    exact device
  · intro regular file kind device
    rw [place, FileTree.at?_append, FileTree.at?_entry h, Option.bind_eq_some_iff] at device
    obtain ⟨node, found, device⟩ := device
    obtain ⟨fs, child, rfl, entry, here⟩ := FileTree.at?_cons_eq_some device
    obtain rfl : child = .device kind := Option.some.inj here
    exact regular fs found file kind entry

/-- Where the files of an artifact have been written the root is a directory, and they are there. -/
theorem exec_stage_ok {after : FileTree} (staged : exec (s.stage name a) files = (.ok (), after)) :
    ∃ es fs, s.Contains after es ∧ es.find? (.text name) = some (.directory fs) ∧
      (s.DevicelessAt name files → ∃ before, fs = written a before) := by
  rw [stage, exec_bind, exec_makeDirs] at staged
  cases made : files.makeDirs (s.place name) with
  | error e =>
      rw [made] at staged
      cases staged
  | ok files₁ =>
      obtain ⟨es, fs, here, found, origin⟩ := FileTree.makeDirs_ok made
      have contains : s.Contains files₁ es := here
      simp only [made, tried, exec_tryCatch] at staged
      rcases exec_writeEntry contains found a with
        ⟨fs', wrote, full⟩ | ⟨-, e, es', fs', failed, -⟩
      · rw [wrote] at staged
        cases staged
        refine ⟨_, fs', contains.fill _, Entries.find?_set_self .., fun free => ⟨fs, full ?_⟩⟩
        rcases origin with rfl | rfl
        · exact fun _ _ => nofun
        · exact contains.devicelessAt_iff.mp free fs found
      · simp only [failed, exec_bind, exec_discard, exec_throw] at staged
        cases staged

/-- A promotion that succeeds has kept the entry that was there, which it does only where it is not
to replace one, or the artifact is in the entry. What was in the root before does not matter, nor
whether there was one. -/
theorem exec_promote_ok {replace : Bool} {tag : String} {result : Promotion} {after : FileTree}
    (promoted : exec (s.promote a replace tag) files = (.ok result, after)) :
    (∃ b, result = .alreadyPresent b ∧ replace = false ∧ after = files ∧
      files.isDirAt (s.place a.fingerprint.text) = true ∧
      (exec (s.readEntry a.fingerprint.text) files).1 = .ok b) ∨
    (∀ b, result ≠ .alreadyPresent b) ∧
      (s.DevicelessAt (sibling a.fingerprint "staging" tag) files →
        ∃ es, s.Contains after es ∧ Holds es a) := by
  cases keeping : files.isDirAt (s.place a.fingerprint.text) && !replace with
  | true =>
      simp only [promote, exec_bind, exec_isDir, keeping, if_true, exec_keep] at promoted
      obtain ⟨read, same⟩ := Prod.mk.inj promoted
      obtain ⟨present, mode⟩ := Bool.and_eq_true_iff.mp keeping
      cases entry : (exec (s.readEntry a.fingerprint.text) files).1 with
      | error e =>
          rw [entry] at read
          cases read
      | ok existing =>
          rw [entry] at read
          cases read
          exact .inl ⟨existing, rfl, by simpa using mode, same.symm, present, rfl⟩
  | false =>
      -- what is staged becomes the entry, or the promotion fails
      simp only [promote, exec_bind, exec_isDir, keeping, Bool.false_eq_true, if_false] at promoted
      rcases staged : exec (s.stage (sibling a.fingerprint "staging" tag) a) files with
        ⟨e | _, files₁⟩ <;> rw [staged] at promoted
      · cases promoted
      · obtain ⟨es, fs, contains, found, full⟩ := exec_stage_ok staged
        simp only [← exec_bind] at promoted
        rcases exec_exchange contains a.fingerprint tag found with
          ⟨es', exchanged, entry, -⟩ | ⟨⟨e, es', refused, -⟩, -⟩
        · rw [exchanged] at promoted
          obtain ⟨answer, rfl⟩ := Prod.mk.inj promoted
          refine .inr ⟨?_, fun free => ⟨es', contains.fill es', ?_⟩⟩
          · rintro b rfl
            split at answer <;> cases answer
          · obtain ⟨before, rfl⟩ := full free
            exact holds_written entry
        · rw [refused] at promoted
          cases promoted

/-- A promotion that returns an artifact has read it from the entry, which it has kept; that it does
only where it is not to replace an entry. -/
theorem exec_promote_kept {replace : Bool} {tag : String} {b : Artifact} {after : FileTree}
    (kept : exec (s.promote a replace tag) files = (.ok (.alreadyPresent b), after)) :
    replace = false ∧ after = files ∧ files.isDirAt (s.place a.fingerprint.text) = true ∧
      (exec (s.readEntry a.fingerprint.text) files).1 = .ok b := by
  rcases exec_promote_ok kept with ⟨_, ⟨⟩, read⟩ | ⟨stored, -⟩
  · exact read
  · exact absurd rfl (stored b)

end Store

end LabelForge
