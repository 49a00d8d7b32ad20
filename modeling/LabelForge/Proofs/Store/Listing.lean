import LabelForge.Proofs.Json.Field
import LabelForge.Proofs.Store.Condition
import LabelForge.Proofs.Store.Promotion

/-!
# LabelForge.Proofs.Store.Listing

**What is listed of a root.** Anything can be in the root of a store: entries, whole and damaged,
hidden directories that a crash has left, and whatever others have put there. A listing and a lookup
decide in different ways what counts. A listing goes through the names, takes those that look like
fingerprints, in either case, and keeps a manifest if it names its own directory; it never looks at
a program. A lookup goes to the directory of its fingerprint and checks the program as well.

Both come to the same: a manifest is listed exactly if it stands in the directory that it names. So
whatever a lookup finds is listed.
-/

namespace LabelForge

open FileTree (Entries)

namespace Store

variable {s : Store} {files : FileTree} {es fs : Entries} {a : Artifact} {f : Fingerprint}
  {m : Manifest}

/-! ### The order -/

instance : Std.TransCmp Moment.cmp :=
  inferInstanceAs (Std.TransCmp (compareLex (compareOn Moment.seconds) (compareOn Moment.nanos)))

/-- Sorted manifests stand with the newest first. -/
theorem pairwise_newest (ms : List Manifest) :
    (ms.mergeSort newestFirst).Pairwise fun m m' =>
      (Moment.cmp m'.promotedAt m.promotedAt).isLE = true := by
  apply List.pairwise_mergeSort
  · intro m m' m'' le le'
    exact Std.TransCmp.isLE_trans le' le
  · intro m m'
    have swapped : Moment.cmp m.promotedAt m'.promotedAt =
        (Moment.cmp m'.promotedAt m.promotedAt).swap := Std.OrientedCmp.eq_swap
    rw [swapped]
    cases Moment.cmp m'.promotedAt m.promotedAt <;> rfl

/-! ### The manifest of a directory -/

/-- The manifest that stands in a directory. -/
def Tells (fs : Entries) (m : Manifest) : Prop :=
  ∃ text, fileText fs manifestFile = .ok text ∧ Manifest.parse text = .ok m

/-- A manifest that stands in the directory that it names. -/
def Named (es : Entries) (m : Manifest) : Prop :=
  ∃ fs, es.find? (.text m.fingerprint.text) = some (.directory fs) ∧ Tells fs m

theorem Named.unique {m' : Manifest} (h : Named es m) (h' : Named es m')
    (same : m.fingerprint = m'.fingerprint) : m = m' := by
  obtain ⟨fs, found, text, read, parsed⟩ := h
  obtain ⟨fs', found', text', read', parsed'⟩ := h'
  rw [same, found', Option.some.injEq, FileTree.directory.injEq] at found
  subst found
  obtain rfl : text' = text := Except.ok.inj (read'.symm.trans read)
  exact Except.ok.inj (parsed.symm.trans parsed')

/-- An entry that holds an artifact has its manifest. -/
theorem Holds.named (holds : Holds es a) (storable : a.manifest.Storable) :
    Named es a.manifest := by
  obtain ⟨fs, found, -, written⟩ := holds
  refine ⟨fs, found, a.manifest.print, ?_, storable.parse_print⟩
  simp only [fileText, written, FileTree.readText, FileTree.read, FileTree.at?, bind, Except.bind,
    Text.textOf?_bytesOf]
  rfl

/-- A manifest is read if it names the directory that it stands in. -/
theorem exec_readManifest_eq_ok (h : s.Contains files es) {name : String}
    (found : es.find? (.text name) = some (.directory fs)) :
    (exec (s.readManifest name) files).1 = .ok m ↔ Tells fs m ∧ m.fingerprint.text = name := by
  have opened := h.readText_entry found manifestFile
  rw [readManifest, exec_bind, Tells]
  cases read : fileText fs manifestFile with
  | error cause =>
      rw [exec_readText_unread (opened.trans read)]
      constructor
      · rintro ⟨⟩
      · rintro ⟨⟨text, ⟨⟩, -⟩, -⟩
  | ok text =>
      rw [exec_readText_found (opened.trans read)]
      simp only [Except.ok.injEq, exists_eq_left']
      cases Manifest.parse text with
      | error fault => simp
      | ok m' =>
          simp only [Except.ok.injEq]
          by_cases own : m'.fingerprint.text = name
          · rw [if_pos (beq_iff_eq.mpr own), exec_pure]
            constructor
            · rintro ⟨⟩
              exact ⟨rfl, own⟩
            · rintro ⟨rfl, -⟩
              rfl
          · rw [if_neg (mt beq_iff_eq.mp own), exec_throw]
            constructor
            · rintro ⟨⟩
            · rintro ⟨rfl, named⟩
              exact absurd named own

/-! ### Going through the names -/

/-- The manifest that a listing takes from a name, if it looks like a fingerprint and has a
directory. -/
def manifestAt (s : Store) (files : FileTree) (name : String) : Option Manifest :=
  if (Fingerprint.parse? name).isSome && files.isDirAt (s.place name) then
    (exec (s.readManifest name) files).1.toOption
  else none

/-- Going through the names only reads. -/
theorem run_listed_text (s : Store) (files : FileTree) (name : String) :
    (s.listed (.text name)).run files = (s.manifestAt files name, files) := by
  unfold manifestAt
  cases valid : (Fingerprint.parse? name).isSome with
  | false =>
      simp only [listed, valid]
      rfl
  | true =>
      have asked : (FileScript.ask (.isDir (s.place name))).run files =
          (files.isDirAt (s.place name), files) := rfl
      cases present : files.isDirAt (s.place name) with
      | false =>
          simp only [listed, valid, if_true, FileScript.run_seq, asked, present]
          rfl
      | true =>
          have kept := (seesOnly_readManifest s name).unchanged files
          have read : (s.readManifest name).run.run files =
              ((exec (s.readManifest name) files).1, files) := Prod.ext rfl kept
          simp only [listed, valid, if_true, FileScript.run_seq, asked, present, read]
          cases (exec (s.readManifest name) files).1 <;> rfl

/-- That is the manifest of the directory, if it names it. -/
theorem manifestAt_eq_some (h : s.Contains files es) {name : String} :
    s.manifestAt files name = some m ↔ name = m.fingerprint.text ∧ Named es m := by
  have directory := h.isDirAt_iff name
  unfold manifestAt
  constructor
  · intro taken
    obtain ⟨there, read⟩ := (Option.ite_none_right_eq_some ..).mp taken
    rw [Bool.and_eq_true] at there
    obtain ⟨fs, found⟩ := directory.mp there.2
    have told := Json.toOption_eq_some.mp read
    obtain ⟨tells, rfl⟩ := (exec_readManifest_eq_ok h found).mp told
    exact ⟨rfl, fs, found, tells⟩
  · rintro ⟨rfl, fs, found, tells⟩
    have valid : (Fingerprint.parse? m.fingerprint.text).isSome = true := by
      rw [Fingerprint.parse?_text]
      rfl
    rw [valid, directory.mpr ⟨fs, found⟩, (exec_readManifest_eq_ok h found).mpr ⟨tells, rfl⟩]
    rfl

/-- What is listed of a name is the manifest that stands in its directory and names it. -/
theorem run_listed (h : s.Contains files es) (name : FileName) :
    ∃ found, (s.listed name).run files = (found, files) ∧
      ∀ m, found = some m ↔ name = .text m.fingerprint.text ∧ Named es m := by
  cases name with
  | raw bytes => exact ⟨none, rfl, fun m => by simp⟩
  | text name =>
      refine ⟨s.manifestAt files name, run_listed_text s files name, fun m => ?_⟩
      rw [manifestAt_eq_some h, FileName.text.injEq]

/-- What is listed of some names. Different names have different manifests, as every manifest names
its directory. -/
theorem run_listedAll (h : s.Contains files es) (names : List FileName) :
    ∃ ms, (s.listedAll names).run files = (ms, files) ∧
      (∀ m, m ∈ ms ↔ .text m.fingerprint.text ∈ names ∧ Named es m) ∧
      (names.Nodup → (ms.map Manifest.fingerprint).Nodup) := by
  induction names with
  | nil => exact ⟨[], rfl, by simp, fun _ => List.nodup_nil⟩
  | cons name names ih =>
      obtain ⟨found, first, told⟩ := run_listed h name
      obtain ⟨ms, rest, mem, once⟩ := ih
      refine ⟨found.toList ++ ms, ?_, fun m => ?_, fun distinct => ?_⟩
      · simp only [listedAll, FileScript.run_seq, first, rest, FileScript.run_pure]
      · rw [List.mem_append, Option.mem_toList, told, mem, List.mem_cons, or_and_right, eq_comm]
      · obtain ⟨fresh, others⟩ := List.nodup_cons.mp distinct
        cases found with
        | none => exact once others
        | some m =>
            obtain ⟨rfl, -⟩ := (told m).mp rfl
            refine List.nodup_cons.mpr ⟨fun again => ?_, once others⟩
            obtain ⟨m', later, same⟩ := List.mem_map.mp again
            exact fresh (same ▸ ((mem m').mp later).1)

/-! ### The listing -/

/-- What is listed of a root with the given entries. -/
structure Listing (es : Entries) (ms : List Manifest) : Prop where
  /-- It is what stands in the directory that it names. -/
  mem : ∀ m, m ∈ ms ↔ Named es m
  /-- As a directory has no name twice, no fingerprint is listed twice. -/
  once : es.names.Nodup → (ms.map Manifest.fingerprint).Nodup
  newest : ms.Pairwise fun m m' => (Moment.cmp m'.promotedAt m.promotedAt).isLE = true

/-- The names are asked for first; then the entries are read. -/
theorem exec_list_eq (s : Store) (files : FileTree) :
    exec s.list files = match files.list s.location with
      | .error e => (.error (.io .list s.root e), files)
      | .ok names => (.ok (((s.listedAll names).run files).1.mergeSort newestFirst),
          ((s.listedAll names).run files).2) := by
  have asked : (FileScript.ask (.list s.location)).run files = (files.list s.location, files) := rfl
  refine (FileScript.run_bind (FileScript.ask (.list s.location)) _ files).trans ?_
  rw [asked]
  cases files.list s.location with
  | error e => rfl
  | ok names => simp only [FileScript.run_seq, FileScript.run_pure]

theorem exec_list_contains (h : s.Contains files es) :
    ∃ ms, exec s.list files = (.ok ms, files) ∧ Listing es ms := by
  obtain ⟨names, read, all⟩ := FileTree.list_directory h
  obtain ⟨ms, listed, mem, once⟩ := run_listedAll h names
  have sorted := List.mergeSort_perm ms newestFirst
  refine ⟨ms.mergeSort newestFirst, ?_, fun m => ?_, fun distinct => ?_, pairwise_newest ms⟩
  · simp only [exec_list_eq, read, listed]
  · rw [sorted.mem_iff, mem, all.mem_iff, and_iff_right_iff_imp]
    rintro ⟨fs, found, -⟩
    rw [Entries.mem_names, found]
    rfl
  · exact (sorted.map _).nodup_iff.mpr (once (all.nodup_iff.mpr distinct))

/-- Nothing but a directory is listed. -/
theorem contains_of_exec_list {ms : List Manifest} {after : FileTree}
    (ran : exec s.list files = (.ok ms, after)) : ∃ es, s.Contains files es := by
  rw [exec_list_eq, FileTree.list] at ran
  unfold Contains
  generalize files.at? s.location = node at ran ⊢
  rcases node with _ | _ | _ | es
  · cases ran
  · cases ran
  · cases ran
  · exact ⟨es, rfl⟩

/-- What a lookup finds has its manifest in the directory of the fingerprint. -/
theorem named_of_lookup (h : s.Contains files es)
    (found : (exec (s.lookup f) files).1 = .ok (some a)) : Named es a.manifest := by
  obtain ⟨fs, entry⟩ := (h.isDirAt_iff _).mp (exec_lookup_some found).1
  rcases condition_cases f fs with ⟨b, whole⟩ | ⟨file, damage, damaged⟩ | ⟨file, cause, unreadable⟩
  · rw [exec_lookup_whole h entry whole] at found
    obtain rfl : b = a := by simpa using found
    obtain rfl : b.fingerprint = f := whole.own
    exact ⟨fs, entry, whole.manifest⟩
  · rw [exec_lookup_damaged h entry damaged] at found
    cases found
  · rw [exec_lookup_unreadable h entry unreadable] at found
    cases found

/-- **A listing agrees with the lookups.** Whatever is in the root of a store, a listing that
succeeds changes nothing, and the root is a directory. What was read from a directory of the root
names that directory, and no such directory has a hidden name. Exactly the manifests that stand in
the directories that they name are listed, each fingerprint once, the newest first. And the manifest
of every artifact that a lookup finds is listed. -/
theorem list_agrees (s : Store) (files after : FileTree) (ms : List Manifest)
    (ran : exec s.list files = (.ok ms, after)) :
    after = files ∧ ∃ es, s.Contains files es ∧ Listing es ms ∧
      (∀ name m, ((s.listed name).run files).1 = some m →
        name = .text m.fingerprint.text ∧ ∀ f kind tag, name ≠ .text (sibling f kind tag)) ∧
      ∀ f a, (exec (s.lookup f) files).1 = .ok (some a) → a.manifest ∈ ms := by
  obtain ⟨es, contains⟩ := contains_of_exec_list ran
  obtain ⟨ms', listed, listing⟩ := exec_list_contains contains
  obtain ⟨rfl, rfl⟩ : ms' = ms ∧ files = after := by simpa using listed.symm.trans ran
  refine ⟨rfl, es, contains, listing, fun name m read => ?_, fun f a found => ?_⟩
  · obtain ⟨found, first, told⟩ := run_listed contains name
    rw [first] at read
    obtain ⟨rfl, -⟩ := (told m).mp read
    exact ⟨rfl, fun f kind tag same => sibling_ne_text f m.fingerprint kind tag
      (FileName.text.inj same).symm⟩
  · exact (listing.mem _).mpr (named_of_lookup contains found)

/-- An artifact with the given program. -/
def keepAll (source : String) : Artifact where
  manifest := {
    fingerprint := ⟨Sha256.hexOfText "keep", Sha256.isHex_hex _⟩
    language := .python
    attempt := 1
    sourceDigest := Sha256.hexOfText source
    promotedAt := ⟨0, 0⟩
    ruleCount := 1
    rowCount := 2
    distribution := [("keep", 2)] }
  source := source

theorem proper_keepAll (source : String) :
    (keepAll source).isIntact = true ∧ (keepAll source).manifest.Storable where
  left := beq_self_eq_true _
  right := {
    attempt := show 1 < 2 ^ 32 by decide
    ruleCount := show 1 < 2 ^ 64 by decide
    rowCount := show 2 < 2 ^ 64 by decide
    sorted := List.pairwise_singleton _ _
    counts := by simp [keepAll]
    moment := Moment.parse?_epoch }

/-- A root with an entry, the same directory under a hidden name and under a name in capitals, a
file, and a directory whose name is no text. -/
def crowded : Entries :=
  .entry (.text (keepAll "a").fingerprint.text) (.directory (written (keepAll "a") .none))
    (.entry (.text (sibling (keepAll "a").fingerprint "staging" "7-1"))
      (.directory (written (keepAll "a") .none))
    (.entry (.text (keepAll "a").fingerprint.text.toUpper)
      (.directory (written (keepAll "a") .none))
    (.entry "README" (.file []) (.entry (.raw [0xFF]) (.directory .none) .none))))

theorem holds_crowded : Holds crowded (keepAll "a") := by
  have entry : crowded.find? (.text (keepAll "a").fingerprint.text) =
      some (.directory (written (keepAll "a") .none)) := by simp [crowded, Entries.find?]
  exact holds_written entry

/-- Only the entry itself names the directory that it stands in. -/
theorem named_crowded {m : Manifest} (named : Named crowded m) : m = (keepAll "a").manifest := by
  obtain ⟨fs, found, -⟩ := id named
  have there : FileName.text m.fingerprint.text ∈ crowded.names := by
    rw [Entries.mem_names, found]
    rfl
  have digits := List.all_eq_true.mpr m.fingerprint.isHex.digits
  simp only [crowded, Entries.names, List.mem_cons, List.not_mem_nil, FileName.text.injEq,
    reduceCtorEq, or_false] at there
  rcases there with own | hidden | capital | foreign
  · exact named.unique (holds_crowded.named (proper_keepAll "a").2) (Fingerprint.ext own)
  · exact absurd hidden.symm (sibling_ne_text _ _ _ _)
  · rw [capital] at digits
    exact absurd digits (by decide +kernel)
  · rw [foreign] at digits
    exact absurd digits (by decide)

/-- In such a root the entry is listed, and nothing else. -/
theorem list_agrees_crowded : crowded.names.Nodup ∧
    exec shelf.list (.directory (.entry "shelf" (.directory crowded) .none)) =
      (.ok [(keepAll "a").manifest], .directory (.entry "shelf" (.directory crowded) .none)) := by
  have distinct : crowded.names.Nodup := by decide +kernel
  have contains : shelf.Contains (.directory (.entry "shelf" (.directory crowded) .none)) crowded :=
    rfl
  obtain ⟨intact, storable⟩ := proper_keepAll "a"
  have found := exec_lookup contains holds_crowded storable intact
  obtain ⟨ms, ran, -⟩ := exec_list_contains contains
  obtain ⟨-, es, same, listing, -, listed⟩ := list_agrees shelf _ _ ms ran
  obtain rfl : es = crowded := by simpa [Contains] using same.symm.trans contains
  have only : ms = List.replicate ms.length (keepAll "a").manifest :=
    List.eq_replicate_of_mem fun m mem => named_crowded ((listing.mem m).mp mem)
  have once := listing.once distinct
  rw [only, List.map_replicate, List.nodup_replicate] at once
  have some := List.length_pos_of_mem (listed _ _ (congrArg Prod.fst found))
  obtain one : ms.length = 1 := by omega
  rw [one] at only
  rw [only] at ran
  exact ⟨distinct, ran⟩

end Store

end LabelForge
