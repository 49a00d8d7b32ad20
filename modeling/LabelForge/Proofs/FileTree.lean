import LabelForge.FileTree

/-!
# LabelForge.Proofs.FileTree

**Work below a directory.** What an operation does to the tree at a location is what it does to
the directory there: the node at the location is looked up, changed by itself, and put back.
Together with the laws of `put` this turns every operation on the entries of a directory, and on
the files in them, into a change of its list of entries.
-/

namespace LabelForge.FileTree

variable {t d node child : FileTree} {l m : Location} {es fs : Entries} {name other : FileName}

/-! ### One step of a location -/

theorem at?_cons (t : FileTree) (name : FileName) (l : Location) :
    t.at? (name :: l) = (t.child? name).bind fun node => node.at? l := by
  rw [at?]
  cases t.child? name <;> rfl

/-- The way to a node below begins at a directory. -/
theorem at?_cons_eq_some (h : t.at? (name :: l) = some d) :
    ∃ es child, t = .directory es ∧ es.find? name = some child ∧ child.at? l = some d := by
  rw [at?_cons, Option.bind_eq_some_iff] at h
  obtain ⟨child, found, h⟩ := h
  cases t with
  | directory es => exact ⟨es, child, rfl, found, h⟩
  | _ => cases found

@[simp] theorem put_nil (t node : FileTree) : t.put [] node = node := by
  cases t <;> rfl

theorem put_cons (found : es.find? name = some child) (l : Location) (node : FileTree) :
    (directory es).put (name :: l) node = .directory (es.set name (child.put l node)) := by
  cases l with
  | nil => rw [put_nil, put]
  | cons next l => simp only [put, found]

theorem remove_cons (found : es.find? name = some child) (below : l ≠ []) :
    (directory es).remove (name :: l) = .directory (es.set name (child.remove l)) := by
  obtain ⟨next, l, rfl⟩ := List.exists_cons_of_ne_nil below
  simp only [remove, found]

theorem Entries.set_set (es : Entries) (name : FileName) (a b : FileTree) :
    (es.set name a).set name b = es.set name b := by
  -- entries are one half of a mutual type; of the other half nothing is claimed
  induction es using Entries.rec (motive_1 := fun _ => True) with
  | none => simp [set]
  | entry first old rest _ ih =>
      by_cases h : first = name
      · simp [set, h]
      · simp [set, h, ih]
  | _ => trivial

theorem Entries.set_same (h : es.find? name = some node) : es.set name node = es := by
  induction es using Entries.rec (motive_1 := fun _ => True) with
  | none => cases h
  | entry first old rest _ ih =>
      by_cases same : first = name
      · simp only [find?, if_pos same, Option.some.injEq] at h
        simp [set, same, h]
      · simp only [find?, if_neg same] at h
        simp [set, same, ih h]
  | _ => trivial

/-! ### The names of the entries -/

theorem Entries.erase_free (h : es.find? name = Option.none) : es.erase name = es := by
  induction es using Entries.rec (motive_1 := fun _ => True) with
  | none => rfl
  | entry first old rest _ ih =>
      by_cases same : first = name
      · simp [find?, same] at h
      · rw [find?, if_neg same] at h
        rw [erase, if_neg same, ih h]
  | _ => trivial

theorem Entries.erase_set (es : Entries) (name : FileName) (node : FileTree) :
    (es.set name node).erase name = es.erase name := by
  induction es using Entries.rec (motive_1 := fun _ => True) with
  | none => simp [set, erase]
  | entry first old rest _ ih =>
      by_cases same : first = name
      · simp [set, erase, same]
      · simp [set, erase, same, ih]
  | _ => trivial

theorem Entries.mem_names : name ∈ es.names ↔ (es.find? name).isSome = true := by
  induction es using Entries.rec (motive_1 := fun _ => True) with
  | none => simp [names]
  | entry first old rest _ ih =>
      by_cases h : first = name
      · simp [names, find?, h]
      · simp [names, find?, h, ih, Ne.symm h]
  | _ => trivial

theorem Entries.nodup_set (h : es.names.Nodup) (name : FileName) (node : FileTree) :
    (es.set name node).names.Nodup := by
  induction es using Entries.rec (motive_1 := fun _ => True) with
  | none => simp [set, names]
  | entry first old rest _ ih =>
      obtain ⟨fresh, distinct⟩ := List.nodup_cons.mp h
      by_cases same : first = name
      · rw [set, if_pos same, ← same]
        exact h
      · rw [set, if_neg same]
        refine List.nodup_cons.mpr ⟨?_, ih distinct⟩
        rw [mem_names, find?_set_ne same, ← mem_names]
        exact fresh
  | _ => trivial

theorem Entries.nodup_erase (h : es.names.Nodup) (name : FileName) :
    (es.erase name).names.Nodup := by
  induction es using Entries.rec (motive_1 := fun _ => True) with
  | none => exact h
  | entry first old rest _ ih =>
      obtain ⟨fresh, distinct⟩ := List.nodup_cons.mp h
      by_cases same : first = name
      · rw [erase, if_pos same]
        exact ih distinct
      · rw [erase, if_neg same]
        refine List.nodup_cons.mpr ⟨?_, ih distinct⟩
        rw [mem_names, find?_erase_ne same, ← mem_names]
        exact fresh
  | _ => trivial

/-- Entries of which only those with some names may have changed. -/
structure Entries.Differ (touched : List FileName) (es es' : Entries) : Prop where
  same : ∀ name ∉ touched, es'.find? name = es.find? name
  nodup : es.names.Nodup → es'.names.Nodup

namespace Entries.Differ

variable {touched : List FileName} {es' es'' : Entries}

theorem refl (touched : List FileName) (es : Entries) : Differ touched es es :=
  ⟨fun _ _ => rfl, id⟩

theorem trans (h : Differ touched es es') (h' : Differ touched es' es'') :
    Differ touched es es'' :=
  ⟨fun name free => (h'.same name free).trans (h.same name free), h'.nodup ∘ h.nodup⟩

theorem set (es : Entries) (mem : name ∈ touched) (node : FileTree) :
    Differ touched es (es.set name node) :=
  ⟨fun _ free => find?_set_ne (by rintro rfl; exact free mem) node es,
    fun h => nodup_set h name node⟩

theorem erase (es : Entries) (mem : name ∈ touched) : Differ touched es (es.erase name) :=
  ⟨fun _ free => find?_erase_ne (by rintro rfl; exact free mem) es, fun h => nodup_erase h name⟩

theorem mono {wider : List FileName} (h : Differ touched es es') (sub : touched ⊆ wider) :
    Differ wider es es' :=
  ⟨fun name free => h.same name fun mem => free (sub mem), h.nodup⟩

end Entries.Differ

/-! ### The laws of putting -/

theorem at?_append (t : FileTree) (l m : Location) :
    t.at? (l ++ m) = (t.at? l).bind fun d => d.at? m := by
  induction l generalizing t with
  | nil => rfl
  | cons name l ih =>
      rw [List.cons_append, at?_cons, at?_cons]
      cases t.child? name with
      | none => rfl
      | some node => exact ih node

/-- Above a directory there are directories. -/
theorem at?_above (h : t.at? (l ++ m) = some (.directory es)) :
    ∃ es', t.at? l = some (.directory es') := by
  rw [at?_append, Option.bind_eq_some_iff] at h
  obtain ⟨d, here, h⟩ := h
  cases m with
  | nil => exact ⟨es, here.trans h⟩
  | cons name m =>
      obtain ⟨es', -, rfl, -⟩ := at?_cons_eq_some h
      exact ⟨es', here⟩

/-- A file of a directory is read from what is at the directory. -/
theorem read_congr {t' : FileTree} (same : t.at? l = t'.at? l) (file : FileName) :
    t.read (l ++ [file]) = t'.read (l ++ [file]) := by
  simp only [read, parentFault, List.dropLast_concat, at?_append, same]

/-- A node that was put at a location is there. -/
theorem at?_put (h : t.at? l = some d) (node : FileTree) : (t.put l node).at? l = some node := by
  induction l generalizing t with
  | nil => rw [put_nil, at?]
  | cons name l ih =>
      obtain ⟨es, child, rfl, found, h⟩ := at?_cons_eq_some h
      rw [put_cons found, at?_cons, child?, Entries.find?_set_self]
      exact ih h

/-- Of two nodes put at a location the second one stays. -/
theorem put_put (h : t.at? l = some d) (a b : FileTree) : (t.put l a).put l b = t.put l b := by
  induction l generalizing t with
  | nil => rw [put_nil, put_nil]
  | cons name l ih =>
      obtain ⟨es, child, rfl, found, h⟩ := at?_cons_eq_some h
      rw [put_cons found, put_cons (Entries.find?_set_self ..), put_cons found, Entries.set_set,
        ih h]

/-- Putting back what is there changes nothing. -/
theorem put_same (h : t.at? l = some d) : t.put l d = t := by
  induction l generalizing t with
  | nil => rw [put_nil, Option.some.inj h]
  | cons name l ih =>
      obtain ⟨es, child, rfl, found, h⟩ := at?_cons_eq_some h
      rw [put_cons found, ih h, Entries.set_same found]

/-- Putting a node below a location puts it into what is at the location. -/
theorem put_append (h : t.at? l = some d) (m : Location) (node : FileTree) :
    t.put (l ++ m) node = t.put l (d.put m node) := by
  induction l generalizing t with
  | nil => rw [put_nil, Option.some.inj h, List.nil_append]
  | cons name l ih =>
      obtain ⟨es, child, rfl, found, h⟩ := at?_cons_eq_some h
      rw [List.cons_append, put_cons found, ih h, put_cons found]

/-- Removing a node below a location removes it from what is at the location. -/
theorem remove_append (h : t.at? l = some d) (below : m ≠ []) :
    t.remove (l ++ m) = t.put l (d.remove m) := by
  induction l generalizing t with
  | nil => rw [put_nil, Option.some.inj h, List.nil_append]
  | cons name l ih =>
      obtain ⟨es, child, rfl, found, h⟩ := at?_cons_eq_some h
      rw [List.cons_append, remove_cons found (by simp [below]), ih h, put_cons found]

/-! ### Operations on the entries of a directory -/

section Operations

variable (h : t.at? l = some (.directory es))
include h

theorem at?_entry (name : FileName) : t.at? (l ++ [name]) = es.find? name := by
  rw [at?_append, h, Option.bind_some, at?_cons, child?]
  cases es.find? name <;> rfl

theorem at?_file (found : es.find? name = some child) (file : FileName) :
    t.at? (l ++ [name] ++ [file]) = child.child? file := by
  rw [at?_append, at?_entry h, found, Option.bind_some, at?_cons]
  cases child.child? file <;> rfl

theorem put_entry (name : FileName) (node : FileTree) :
    t.put (l ++ [name]) node = t.put l (.directory (es.set name node)) := by
  rw [put_append h, put]

theorem remove_entry (name : FileName) :
    t.remove (l ++ [name]) = t.put l (.directory (es.erase name)) := by
  rw [remove_append h (List.cons_ne_nil _ _), remove]

theorem parentFault_entry (name : FileName) : t.parentFault (l ++ [name]) = none := by
  rw [parentFault, List.dropLast_concat, h]

/-- A directory is made where nothing is. -/
theorem makeDirs_new (free : es.find? name = none) :
    t.makeDirs (l ++ [name]) = .ok (t.put l (.directory (es.set name empty))) := by
  have made : t.makeDir (l ++ [name]) = .ok (t.put l (.directory (es.set name empty))) := by
    rw [makeDir, at?_entry h, free, parentFault_entry h, put_entry h]
  rw [makeDirs, List.reverse_append, List.reverse_singleton, List.singleton_append, makeDirsBack,
    List.reverse_cons, List.reverse_reverse, made]

/-- Where something is, no directory is made; it is fine if there is one. -/
theorem makeDirs_taken (found : es.find? name = some child) :
    t.makeDirs (l ++ [name]) = if child.isDir then .ok t else .error .exists := by
  have made : t.makeDir (l ++ [name]) = .error .exists := by
    rw [makeDir, at?_entry h, found]
  have isDir : t.isDirAt (l ++ [name]) = child.isDir := by
    rw [isDirAt, at?_entry h, found]
  rw [makeDirs, List.reverse_append, List.reverse_singleton, List.singleton_append, makeDirsBack,
    List.reverse_cons, List.reverse_reverse, made, ← isDir]

/-- Nothing is made where there is a directory, nor above it. -/
theorem makeDirs_there : t.makeDirs l = .ok t := by
  rcases List.eq_nil_or_concat l with rfl | ⟨above, name, rfl⟩
  · obtain rfl : t = .directory es := Option.some.inj h
    rfl
  · rw [List.concat_eq_append] at h ⊢
    obtain ⟨es', here⟩ := at?_above h
    have found : es'.find? name = some (.directory es) := (at?_entry here name).symm.trans h
    rw [makeDirs_taken here found]
    rfl

theorem makeDirs_above (k : Nat) : t.makeDirs (l.take k) = .ok t := by
  rw [← List.take_append_drop k l] at h
  obtain ⟨es', here⟩ := at?_above h
  exact makeDirs_there here

/-- A file is written where nothing or a file is. -/
theorem write_file (found : es.find? name = some (.directory fs)) {file : FileName}
    (free : ∀ node, fs.find? file = some node → ∃ old, node = .file old) (content : Text.Bytes) :
    t.write (l ++ [name] ++ [file]) content =
      .ok (t.put l (.directory (es.set name (.directory (fs.set file (.file content)))))) := by
  have here : t.at? (l ++ [name]) = some (.directory fs) := (at?_entry h name).trans found
  rw [write, at?_file h found, child?]
  cases taken : fs.find? file with
  | none => simp only [parentFault_entry here, put_entry here, put_entry h]
  | some node =>
      obtain ⟨old, rfl⟩ := free node taken
      simp only [put_entry here, put_entry h]

/-- What is written to a device leaves the files as they are, unless the device is full. -/
theorem write_device (found : es.find? name = some (.directory fs)) {file : FileName}
    {kind : Device} (taken : fs.find? file = some (.device kind)) (content : Text.Bytes) :
    t.write (l ++ [name] ++ [file]) content = .ok t ∨
      ∃ e, t.write (l ++ [name] ++ [file]) content = .error e := by
  rw [write, at?_file h found, child?, taken]
  cases kind with
  | null => exact .inl rfl
  | full =>
      simp only
      split
      · exact .inl rfl
      · exact .inr ⟨_, rfl⟩

/-- No file is written where a directory is. -/
theorem write_directory (found : es.find? name = some (.directory fs)) {file : FileName}
    {below : Entries} (taken : fs.find? file = some (.directory below)) (content : Text.Bytes) :
    t.write (l ++ [name] ++ [file]) content = .error .isDirectory := by
  rw [write, at?_file h found, child?, taken]

/-- Removing the directory of an entry removes the entry. -/
theorem removeDir_entry (found : es.find? name = some (.directory fs)) :
    t.removeDir (l ++ [name]) = .ok (t.put l (.directory (es.erase name))) := by
  rw [removeDir, at?_entry h, found, remove_entry h]

/-- A directory is renamed to a name that is free; otherwise it may be refused. -/
theorem rename_directory (found : es.find? name = some (.directory fs)) (other : FileName) :
    t.rename (l ++ [name]) (l ++ [other]) =
        .ok (t.put l (.directory ((es.erase name).set other (.directory fs)))) ∨
      (∃ e, t.rename (l ++ [name]) (l ++ [other]) = .error e) ∧ es.find? other ≠ none := by
  have removed : (t.put l (.directory (es.erase name))).at? l = some (.directory (es.erase name)) :=
    at?_put h _
  simp only [rename, at?_entry h, found, parentFault_entry h, remove_entry h, put_entry removed,
    put_put h]
  rcases es.find? other with _ | _ | _ | _ | _
  · exact .inl rfl
  · exact .inr ⟨⟨_, rfl⟩, nofun⟩
  · exact .inr ⟨⟨_, rfl⟩, nofun⟩
  · exact .inl rfl
  · exact .inr ⟨⟨_, rfl⟩, nofun⟩

/-- A directory is not renamed to the name of a directory that has something in it. -/
theorem rename_occupied (found : es.find? name = some (.directory fs)) {other : FileName}
    {gs : Entries} (taken : es.find? other = some (.directory gs)) (busy : gs ≠ .none) :
    t.rename (l ++ [name]) (l ++ [other]) = .error .notEmpty := by
  simp only [rename, at?_entry h, found, parentFault_entry h, taken]
  cases gs with
  | none => exact absurd rfl busy
  | entry => rfl

/-- Nothing is renamed where nothing is. -/
theorem rename_free (free : es.find? name = none) (target : Location) :
    t.rename (l ++ [name]) target = .error .notFound := by
  rw [rename, at?_entry h, free]

/-- A file is not read where there is no directory for it. -/
theorem read_noDirectory (free : es.find? name = none) (file : FileName) :
    t.read (l ++ [name] ++ [file]) = .error .notFound := by
  have here : t.at? (l ++ [name]) = none := (at?_entry h name).trans free
  have there : t.at? (l ++ [name] ++ [file]) = none := by
    rw [at?_append, here, Option.bind_none]
  rw [read, there, parentFault, List.dropLast_concat, here]
  rfl

/-- A file is not read where there is none. -/
theorem read_noFile (found : es.find? name = some (.directory fs)) {file : FileName}
    (free : fs.find? file = none) : t.read (l ++ [name] ++ [file]) = .error .notFound := by
  have here : t.at? (l ++ [name]) = some (.directory fs) := (at?_entry h name).trans found
  rw [read, at?_file h found, child?, free, parentFault_entry here]
  rfl

/-- What is read of a directory are its names, in some order. -/
theorem list_directory : ∃ names, t.list l = .ok names ∧ names.Perm es.names := by
  rw [list, h]
  exact ⟨_, rfl, List.mergeSort_perm _ _⟩

end Operations

/-- A directory that has been made is there. -/
theorem makeDir_ok {t' : FileTree} (made : t.makeDir (l ++ [name]) = .ok t') :
    ∃ es, t'.at? l = some (.directory es) ∧ es.find? name = some empty := by
  unfold makeDir at made
  split at made
  · cases made
  · split at made
    · cases made
    · rename_i parent
      rw [parentFault, List.dropLast_concat] at parent
      split at parent
      · rename_i es here
        rw [put_entry here] at made
        cases made
        exact ⟨_, at?_put here _, Entries.find?_set_self ..⟩
      · cases parent
      · cases parent

/-- So is one that has been made with the directories on the way; it is empty, or nothing had to be
made. -/
theorem makeDirs_ok {t' : FileTree} (made : t.makeDirs (l ++ [name]) = .ok t') :
    ∃ es fs, t'.at? l = some (.directory es) ∧ es.find? name = some (.directory fs) ∧
      (fs = .none ∨ t' = t) := by
  have last {t : FileTree} (made : t.makeDir (l ++ [name]) = .ok t') :
      ∃ es, t'.at? l = some (.directory es) ∧ es.find? name = some (.directory .none) :=
    makeDir_ok made
  rw [makeDirs, List.reverse_append, List.reverse_singleton, List.singleton_append, makeDirsBack,
    List.reverse_cons, List.reverse_reverse] at made
  split at made
  · rename_i once
    cases made
    obtain ⟨es, here, found⟩ := last once
    exact ⟨es, .none, here, found, .inl rfl⟩
  · cases above : makeDirsBack l.reverse t with
    | error e =>
        rw [above] at made
        cases made
    | ok t₁ =>
        rw [above] at made
        obtain ⟨es, here, found⟩ := last made
        exact ⟨es, .none, here, found, .inl rfl⟩
  · split at made
    · rename_i there
      cases made
      unfold isDirAt at there
      split at there
      · rename_i node found
        cases node with
        | directory fs =>
            obtain ⟨es, here⟩ := at?_above found
            exact ⟨es, fs, here, (at?_entry here name).symm.trans found, .inr rfl⟩
        | _ => cases there
      · cases there
    · cases made

end LabelForge.FileTree
