import LabelForge.Proofs.Store.Interruption
import LabelForge.Proofs.Store.Rivals
import LabelForge.Proofs.Store.Search

/-!
# LabelForge.Proofs.Store.Traffic

**What callers get from a store that others change.** Any number of calls store artifacts of one
fingerprint, some of them in the place of what is there, while others look the fingerprint up. An
entry is read in two steps, so a reader can get the manifest of one artifact and the program of
another one. A lookup compares the digest and hands out whole artifacts only. A promotion that
returns the entry that is there does not, and what it returns may be torn.

Design points:

* Every manifest and every program that was read is one that a call was given (`Given`). This is
  kept by every turn, whatever the order is.
* Between the two readings of a promotion only a call that moves the entry away does harm
  (`Steady`).
-/

namespace LabelForge

/-- A turn of a script whose result is changed at the end. -/
theorem FileScript.turn_map {α β : Type} (f : α → β) (script : FileScript α) (files : FileTree) :
    (f <$> script).turn files = (f <$> (script.turn files).1, (script.turn files).2) := by
  cases script <;> rfl

namespace Store

open FileTree (Entries)

/-- The result of a script is changed at its end. -/
theorem run_map {α β : Type} (f : α → β) (script : StoreScript α) :
    ExceptT.run (f <$> script) = Except.map f <$> ExceptT.run script := by
  refine congrArg (FileScript.bind (ExceptT.run script)) (funext fun result => ?_)
  cases result <;> rfl

/-- Calls that store artifacts of one fingerprint; some of them replace what is there. -/
structure Traffic (ι : Type) extends Rivals ι where
  replaces : ι → Bool
  intact : ∀ i, (artifacts i).isIntact = true

namespace Traffic

variable {ι κ : Type} (T : Traffic ι)

/-- The calls and some lookups of the fingerprint before their first step. -/
def race (κ : Type) (files : FileTree) : Race (ι ⊕ κ) (Except StoreError Answer) where
  files := files
  scripts
    | .inl i =>
      ExceptT.run (T.store.serve (.promote (T.artifacts i) (T.replaces i) (T.tags i)))
    | .inr _ => ExceptT.run (T.store.serve (.lookup T.key))

/-- The programs have different digests unless they are the same. -/
def Collisionless : Prop :=
  ∀ i j, Sha256.hexOfText (T.artifacts i).source = Sha256.hexOfText (T.artifacts j).source →
    (T.artifacts i).source = (T.artifacts j).source

/-- Manifest and program of an artifact are those of artifacts that calls were given. -/
def Given (a : Artifact) : Prop :=
  ∃ i j, a = ⟨(T.artifacts i).manifest, (T.artifacts j).source⟩

/-- An artifact put together from two is intact exactly if it is one of those given. -/
theorem Given.isIntact_iff {T : Traffic ι} {a : Artifact} (h : T.Given a)
    (unlike : T.Collisionless) : a.isIntact = true ↔ ∃ i, a = T.artifacts i := by
  constructor
  · obtain ⟨i, j, rfl⟩ := h
    intro intact
    have digest : Sha256.hexOfText (T.artifacts j).source = (T.artifacts i).manifest.sourceDigest :=
      beq_iff_eq.1 intact
    have own : Sha256.hexOfText (T.artifacts i).source = (T.artifacts i).manifest.sourceDigest :=
      beq_iff_eq.1 (T.intact i)
    exact ⟨i, by rw [unlike j i (digest.trans own.symm)]⟩
  · rintro ⟨i, rfl⟩
    exact T.intact i

/-! ### States of the race -/

/-- What a call has still to do in a phase. Until it has looked for the entry, that depends on
whether it replaces. -/
def script (i : ι) : Phase → FileScript (Except StoreError Promotion)
  | .looking => ExceptT.run (T.store.promote (T.artifacts i) (T.replaces i) (T.tags i))
  | p => (T.call i).script p

theorem script_of_ne {T : Traffic ι} {i : ι} {p : Phase} (begun : p ≠ .looking) :
    T.script i p = (T.call i).script p := by
  cases p <;> first | rfl | exact absurd rfl begun

/-- A turn of a call, and what it makes of the entries of the root. -/
inductive Goes (i : ι) : Phase → Entries → Phase → Entries → Prop where
  | moves {p p' : Phase} {es es' : Entries} (m : (T.call i).Moves p es p' es') : Goes i p es p' es'
  /-- A call that replaces goes on whether or not there is an entry. -/
  | starts (es : Entries) (mode : T.replaces i = true) : Goes i .looking es .making es

/-- The manifests and programs that a call has read are given ones. -/
def Fair : Phase → Prop
  | .readingProgram m => ∃ i, m = (T.artifacts i).manifest
  | .returned (.ok (.alreadyPresent a)) => T.Given a
  | _ => True

/-- The manifests and programs that a lookup has read are given ones, and what it has found is
intact. -/
def FairSearch : Search → Prop
  | .readingProgram m => ∃ i, m = (T.artifacts i).manifest
  | .returned (.ok (some a)) => T.Given a ∧ a.isIntact = true
  | _ => True

/-- A state of the race: the phases of the calls and of the lookups, and the entries of the root. -/
structure Reaches (r : Race (ι ⊕ κ) (Except StoreError Answer)) (phases : ι → Phase)
    (searches : κ → Search) (es : Entries) : Prop where
  contains : T.store.Contains r.files es
  calls : ∀ i, r.scripts (.inl i) = Except.map .promoted <$> T.script i (phases i)
  lookups : ∀ j, r.scripts (.inr j) = Except.map .found <$> (searches j).script T.store T.key
  hidden : ∀ i, (T.call i).Hidden (phases i) es
  entry : Vacant T.key es ∨ ∃ i, Stored T.key es (T.artifacts i)
  fair : ∀ i, T.Fair (phases i)
  fairSearch : ∀ j, T.FairSearch (searches j)

variable {T} {es es' : Entries} {r : Race (ι ⊕ κ) (Except StoreError Answer)}
  {phases phases' : ι → Phase} {searches : κ → Search} {p p' : Phase} {q q' : Search} {i i' : ι}
  {j : κ} {files : FileTree}

/-- In the beginning nobody has done anything. -/
theorem reaches_race (opened : T.store.Contains files es) (vacant : Vacant T.key es)
    (free : ∀ i kind, es.find? (.text (sibling T.key kind (T.tags i))) = none) :
    T.Reaches (T.race κ files) (fun _ => .looking) (fun _ => .looking) es where
  contains := opened
  calls _ := run_map ..
  lookups _ := run_map ..
  hidden := (Rivals.reaches_race opened vacant free).hidden
  entry := .inl vacant
  fair _ := trivial
  fairSearch _ := trivial

/-! ### One turn -/

theorem Moves.begun {c : Call} (m : c.Moves p es p' es') : p' ≠ .looking := by
  cases m <;> exact nofun

theorem Goes.differ (m : T.Goes i p es p' es') : es.Differ (touched T.key (T.tags i)) es' := by
  cases m with
  | moves m => exact T.call_key i ▸ m.differ
  | starts es => exact .refl _ es

theorem Goes.hidden (m : T.Goes i p es p' es') (h : (T.call i).Hidden p es) :
    (T.call i).Hidden p' es' := by
  cases m with
  | moves m => exact m.hidden h
  | starts => exact ⟨fun _ => h.draft nofun, h.aside, nofun⟩

theorem Goes.entry (m : T.Goes i p es p' es')
    (h : Vacant T.key es ∨ ∃ i, Stored T.key es (T.artifacts i)) :
    Vacant T.key es' ∨ ∃ i, Stored T.key es' (T.artifacts i) := by
  cases m with
  | moves m => exact Rivals.entry_of_moves h m
  | starts => exact h

/-- The entry of the moment is a given one. -/
theorem artifact_of_stored {key : Fingerprint} (same : key = T.key)
    (h : Vacant T.key es ∨ ∃ i, Stored T.key es (T.artifacts i)) {a : Artifact}
    (stored : Stored key es a) : ∃ j, a = T.artifacts j := by
  subst same
  rcases h with vacant | ⟨j, own⟩
  · exact nomatch vacant.symm.trans stored.found
  · exact ⟨j, stored.unique own⟩

/-- What is read is the entry of the moment. -/
theorem Goes.fair (m : T.Goes i p es p' es')
    (h : Vacant T.key es ∨ ∃ i, Stored T.key es (T.artifacts i)) (fair : T.Fair p) :
    T.Fair p' := by
  cases m with
  | starts => trivial
  | moves m =>
      cases m with
      | readManifest stored =>
          obtain ⟨j, rfl⟩ := artifact_of_stored (T.call_key i) h stored
          exact ⟨j, rfl⟩
      | readProgram stored =>
          -- another entry may have been there when the manifest was read
          obtain ⟨k, rfl⟩ := artifact_of_stored (T.call_key i) h stored
          obtain ⟨j, rfl⟩ := fair
          exact ⟨j, k, rfl⟩
      | installed _ replaced => cases replaced <;> trivial
      | ended => exact fair
      | _ => trivial

/-- The same holds of lookups. -/
theorem fairSearch_finds (m : Search.Finds T.store T.key es q q')
    (h : Vacant T.key es ∨ ∃ i, Stored T.key es (T.artifacts i)) (fair : T.FairSearch q) :
    T.FairSearch q' := by
  cases m with
  | readManifest stored =>
      obtain ⟨j, rfl⟩ := artifact_of_stored rfl h stored
      exact ⟨j, rfl⟩
  | @readProgram a stored m same =>
      obtain ⟨k, rfl⟩ := artifact_of_stored rfl h stored
      obtain ⟨j, rfl⟩ := fair
      rw [Search.verdict]
      split
      next intact => exact ⟨⟨j, k, rfl⟩, intact⟩
      next => trivial
  | ended => exact fair
  | _ => trivial

/-- A turn of a call goes where the machine goes. -/
theorem turn_script (h : T.store.Contains files es) (hidden : (T.call i).Hidden p es)
    (whole : Vacant T.key es ∨ ∃ i, Stored T.key es (T.artifacts i)) :
    ∃ p' es', (T.script i p).turn files = (T.script i p', T.store.fill files es') ∧
      T.Goes i p es p' es' := by
  by_cases starts : p = .looking ∧ T.replaces i = true
  · -- the answer to the first question does not matter to a call that replaces
    obtain ⟨rfl, mode⟩ := starts
    refine ⟨.making, es, ?_, .starts es mode⟩
    have begins := (T.call i).replacement_eq
    rw [Call.replacement] at begins
    rw [script, mode, begins, h.fill_self]
    rfl
  · have same : T.script i p = (T.call i).script p := by
      by_cases begun : p = .looking
      · obtain rfl := begun
        have mode : T.replaces i = false := by simpa using starts
        rw [script, mode]
        rfl
      · exact script_of_ne begun
    have entry : Vacant (T.call i).key es ∨ ∃ b, Stored (T.call i).key es b := by
      rw [Rivals.call_key]
      exact whole.imp_right fun ⟨j, stored⟩ => ⟨_, stored⟩
    obtain ⟨es', after, moved⟩ := Call.moves h hidden entry
    -- from here on both kinds of calls do the same
    refine ⟨_, es', ?_, .moves moved⟩
    rw [same, (T.call i).turn_script, after, script_of_ne (Moves.begun moved)]

variable [DecidableEq ι] [DecidableEq κ]

/-- A turn of a call leads to such a state again. -/
theorem Reaches.call_step (h : T.Reaches r phases searches es) (i : ι) :
    ∃ p' es', T.Goes i (phases i) es p' es' ∧
      T.Reaches (r.step (.inl i)) (Function.update phases i p') searches es' := by
  obtain ⟨p', es', turned, goes⟩ := turn_script h.contains (h.hidden i) h.entry
  have after : (r.scripts (.inl i)).turn r.files =
      (Except.map .promoted <$> T.script i p', T.store.fill r.files es') := by
    rw [h.calls i, FileScript.turn_map, turned]
  refine ⟨p', es', goes, ?_, fun i' => ?_, fun j => ?_, ?_, goes.entry h.entry, ?_, h.fairSearch⟩
  · rw [Race.step, after]
    exact h.contains.fill es'
  · by_cases own : i' = i
    · rw [own, Race.scripts_step_self, after, Function.update_self]
    · rw [Race.scripts_step_of_ne r (mt Sum.inl.inj own), Function.update_of_ne own]
      exact h.calls i'
  · rw [Race.scripts_step_of_ne r Sum.inr_ne_inl]
    exact h.lookups j
  · refine (Function.forall_update_iff phases fun i' p => (T.call i').Hidden p es').2
      ⟨goes.hidden (h.hidden i), fun i' other => ?_⟩
    -- the hidden names of different calls are different
    exact Rivals.hidden_of_differ other (h.hidden i') goes.differ
  · exact (Function.forall_update_iff phases fun _ p => T.Fair p).2
      ⟨goes.fair h.entry (h.fair i), fun i' _ => h.fair i'⟩

/-- A turn of a lookup leads to such a state again, and changes nothing else. -/
theorem Reaches.lookup_step (h : T.Reaches r phases searches es) (j : κ) :
    ∃ q', T.Reaches (r.step (.inr j)) phases (Function.update searches j q') es := by
  have found := Search.finds h.contains (h.entry.imp_right fun ⟨i, stored⟩ => ⟨_, stored⟩)
    (searches j)
  have after : (r.scripts (.inr j)).turn r.files =
      (Except.map .found <$> ((searches j).turn T.store T.key r.files).script T.store T.key,
        r.files) := by
    rw [h.lookups j, FileScript.turn_map, Search.turn_script]
  refine ⟨(searches j).turn T.store T.key r.files, ?_, fun i => ?_, fun j' => ?_, h.hidden,
    h.entry, h.fair, ?_⟩
  · rw [Race.step, after]
    exact h.contains
  · rw [Race.scripts_step_of_ne r Sum.inl_ne_inr]
    exact h.calls i
  · by_cases own : j' = j
    · rw [own, Race.scripts_step_self, after, Function.update_self]
    · rw [Race.scripts_step_of_ne r (mt Sum.inr.inj own), Function.update_of_ne own]
      exact h.lookups j'
  · exact (Function.forall_update_iff searches fun _ q => T.FairSearch q).2
      ⟨fairSearch_finds found h.entry (h.fairSearch j), fun j' _ => h.fairSearch j'⟩

/-- So do all turns. -/
theorem Reaches.run (h : T.Reaches r phases searches es) (turns : List (ι ⊕ κ)) :
    ∃ phases searches es, T.Reaches (r.run turns) phases searches es := by
  induction turns generalizing r phases searches es with
  | nil => exact ⟨phases, searches, es, h⟩
  | cons who turns ih =>
      cases who with
      | inl i =>
          obtain ⟨_, _, -, reaches⟩ := h.call_step i
          exact ih reaches
      | inr j =>
          obtain ⟨_, reaches⟩ := h.lookup_step j
          exact ih reaches

/-! ### Answers -/

omit [DecidableEq ι] [DecidableEq κ] in
/-- What a call has answered is the result of its phase. -/
theorem Reaches.promoted (h : T.Reaches r phases searches es) {result : Promotion}
    (answered : r.result? (.inl i) = some (.ok (.promoted result))) :
    phases i = .returned (.ok result) := by
  rw [Race.result?, h.calls i] at answered
  by_cases begun : phases i = .looking
  · rw [begun] at answered
    cases answered
  · rw [script_of_ne begun] at answered
    have script := (T.call i).script_eq (phases i)
    split at script
    · rw [script] at answered
      cases answered
    · obtain ⟨answer, ended, script⟩ := script
      rw [script] at answered
      cases answer with
      | error e => cases answered
      | ok other =>
          cases answered
          exact ended

omit [DecidableEq ι] [DecidableEq κ] in
theorem Reaches.found (h : T.Reaches r phases searches es) {a : Option Artifact}
    (answered : r.result? (.inr j) = some (.ok (.found a))) :
    searches j = .returned (.ok a) := by
  rw [Race.result?, h.lookups j] at answered
  have script := (searches j).script_eq T.store T.key
  split at script
  · rw [script] at answered
    cases answered
  · obtain ⟨answer, ended, script⟩ := script
    rw [script] at answered
    cases answer with
    | error e => cases answered
    | ok other =>
        cases answered
        exact ended

omit [DecidableEq ι] [DecidableEq κ] in
/-- The next operation of a call is that of its phase, whether or not it replaces. -/
theorem Reaches.next? (h : T.Reaches r phases searches es) (i : ι) :
    r.next? (.inl i) = ((T.call i).move? (phases i)).map Sigma.fst := by
  rw [Race.next?, h.calls i]
  by_cases begun : phases i = .looking
  · rw [begun]
    show some (FileOp.isDir (T.store.place (T.artifacts i).fingerprint.text)) = _
    rfl
  · rw [script_of_ne begun]
    have script := (T.call i).script_eq (phases i)
    split at script
    · rename_i found
      rw [script, found]
      rfl
    · rename_i none
      obtain ⟨_, -, script⟩ := script
      rw [script, none]
      rfl

omit [DecidableEq ι] [DecidableEq κ] in
/-- The manifest of the entry is read in one phase only. -/
theorem Reaches.reading (h : T.Reaches r phases searches es)
    (next : r.next? (.inl i) =
      some (.readText (T.store.place T.key.text ++ [.text manifestFile]))) :
    phases i = .readingManifest := by
  rw [h.next?] at next
  cases p : phases i <;> rw [p] at next <;> simp [Call.move?] at next
  -- no program has the name of the manifest
  exact absurd next (fileName_ne_manifestFile _)

omit [DecidableEq ι] [DecidableEq κ] in
/-- The entry is moved away in one phase only. -/
theorem Reaches.peaceful (h : T.Reaches r phases searches es)
    (calm : T.Undisturbed (r.next? (.inl i)).toList) : phases i ≠ .retiring := by
  intro retiring
  refine calm (T.store.place (T.call i).aside) ?_
  rw [h.next?, retiring, ← T.call_key i]
  exact List.mem_singleton_self _

/-! ### Reading while the entry stays -/

variable (T) in
/-- Where a call stands that has come to read the manifest, as long as the entry has not been moved
since. -/
inductive Steady (i : ι) (phases : ι → Phase) (es : Entries) : Prop where
  | ready (ready : phases i = .readingManifest)
  | halfway (j : ι) (reading : phases i = .readingProgram (T.artifacts j).manifest)
      (stored : Stored T.key es (T.artifacts j))
  | ended (result : Except StoreError Promotion) (returned : phases i = .returned result)
      (whole : ∀ a, result = .ok (.alreadyPresent a) → ∃ j, a = T.artifacts j)

omit [DecidableEq ι] in
/-- A turn of any call that does not move the entry away leaves it as it is. -/
theorem Goes.stored {a : Artifact} (m : T.Goes i p es p' es') (stored : Stored T.key es a)
    (peaceful : p ≠ .retiring) : Stored T.key es' a := by
  cases m with
  | starts => exact stored
  | moves m =>
      have entry := m.entry (T.storable i)
      rw [Rivals.call_key] at entry
      rcases entry with same | ⟨retiring, -⟩ | ⟨_, -, -, vacant, -⟩
      · exact ⟨same.trans stored.found, stored.own, stored.storable⟩
      · exact absurd retiring peaceful
      · exact nomatch vacant.symm.trans stored.found

theorem Steady.step (h : T.Steady i phases es) (m : T.Goes i' (phases i') es p' es')
    (whole : Vacant T.key es ∨ ∃ i, Stored T.key es (T.artifacts i))
    (peaceful : phases i' ≠ .retiring) : T.Steady i (Function.update phases i' p') es' := by
  by_cases own : i' = i
  · subst own
    cases h with
    | ready ready =>
        rw [ready] at m
        cases m with
        | moves m =>
            cases m with
            | readManifest stored =>
                obtain ⟨j, rfl⟩ := artifact_of_stored (T.call_key i') whole stored
                exact .halfway j (Function.update_self ..) (T.call_key i' ▸ stored)
            | noManifest => exact .ended _ (Function.update_self ..) nofun
    | halfway j reading stored =>
        rw [reading] at m
        cases m with
        | moves m =>
            cases m with
            | readProgram other =>
                obtain rfl := (T.call_key i' ▸ other : Stored T.key es _).unique stored
                refine .ended _ (Function.update_self ..) ?_
                rintro a ⟨⟩
                exact ⟨j, rfl⟩
            | noProgram => exact .ended _ (Function.update_self ..) nofun
    | ended result returned whole =>
        rw [returned] at m
        cases m with
        | moves m =>
            cases m
            exact .ended result (Function.update_self ..) whole
  · -- a turn of another call matters only for the entry, and only halfway
    have other := Function.update_of_ne (Ne.symm own) p' phases
    cases h with
    | ready ready => exact .ready (other.trans ready)
    | halfway j reading stored =>
        exact .halfway j (other.trans reading) (m.stored stored peaceful)
    | ended result returned whole => exact .ended result (other.trans returned) whole

theorem Steady.run (h : T.Reaches r phases searches es) (steady : T.Steady i phases es)
    (turns : List (ι ⊕ κ)) (calm : T.Undisturbed (r.ops turns)) :
    ∃ phases searches es, T.Reaches (r.run turns) phases searches es ∧ T.Steady i phases es := by
  induction turns generalizing r phases searches es with
  | nil => exact ⟨phases, searches, es, h, steady⟩
  | cons who turns ih =>
      have later : T.Undisturbed ((r.step who).ops turns) :=
        fun target mem => calm target (List.mem_append_right _ mem)
      cases who with
      | inl i' =>
          obtain ⟨p', es', goes, reaches⟩ := h.call_step i'
          have peaceful : phases i' ≠ .retiring :=
            h.peaceful fun target mem => calm target (List.mem_append_left _ mem)
          exact ih reaches (steady.step goes h.entry peaceful) later
      | inr j =>
          obtain ⟨_, reaches⟩ := h.lookup_step j
          exact ih reaches steady later

/-- **What callers get from the store.** Any number of calls store intact artifacts of one
fingerprint, with or without replacing what is there, and any number of lookups search for it, in
any interleaving of their operations. What a lookup finds is intact and one of the artifacts,
manifest and program together. What a promotion finds instead of storing its own is the manifest of
one and the program of one, and it is intact exactly if these are the same; that is so if no call
moves the entry away after the promotion has come to read the manifest. -/
theorem race_answers (T : Traffic ι) (opened : T.store.Contains files es)
    (vacant : Vacant T.key es)
    (free : ∀ i kind, es.find? (.text (sibling T.key kind (T.tags i))) = none)
    (unlike : T.Collisionless) :
    (∀ turns j a, ((T.race κ files).run turns).result? (.inr j) = some (.ok (.found (some a))) →
      a.isIntact = true ∧ ∃ i, a = T.artifacts i) ∧
    (∀ turns i a, ((T.race κ files).run turns).result? (.inl i) =
        some (.ok (.promoted (.alreadyPresent a))) →
      T.Given a ∧ (a.isIntact = true ↔ ∃ j, a = T.artifacts j)) ∧
    ∀ turns later i a, ((T.race κ files).run turns).next? (.inl i) =
        some (.readText (T.store.place T.key.text ++ [.text manifestFile])) →
      T.Undisturbed (((T.race κ files).run turns).ops later) →
      ((T.race κ files).run (turns ++ later)).result? (.inl i) =
        some (.ok (.promoted (.alreadyPresent a))) →
      ∃ j, a = T.artifacts j := by
  have start := reaches_race (κ := κ) opened vacant free
  refine ⟨fun turns j a answered => ?_, fun turns i a answered => ?_,
    fun turns later i a next calm answered => ?_⟩
  · obtain ⟨phases, searches, es', reaches⟩ := start.run turns
    have fair := reaches.fairSearch j
    rw [reaches.found answered] at fair
    exact ⟨fair.2, (fair.1.isIntact_iff unlike).1 fair.2⟩
  · obtain ⟨phases, searches, es', reaches⟩ := start.run turns
    have fair := reaches.fair i
    rw [reaches.promoted answered] at fair
    exact ⟨fair, fair.isIntact_iff unlike⟩
  · obtain ⟨phases, searches, es', reaches⟩ := start.run turns
    obtain ⟨phases, searches, es', reaches, steady⟩ :=
      Steady.run reaches (.ready (reaches.reading next)) later calm
    rw [← Race.run_append] at reaches
    have returned := reaches.promoted answered
    cases steady with
    | ready ready => exact nomatch ready.symm.trans returned
    | halfway j reading => exact nomatch reading.symm.trans returned
    | ended result now whole =>
        rw [now, Phase.returned.injEq] at returned
        exact whole a returned

/-! ### A torn artifact -/

omit [DecidableEq ι] [DecidableEq κ] in
/-- A call that looks for the entry and reads its manifest. -/
theorem turns_reading {c : Call} {a : Artifact} (h : c.store.Contains files es)
    (holds : Holds es a) (own : a.fingerprint = c.key) (storable : a.manifest.Storable) :
    c.turn .looking files = (.readingManifest, files) ∧
      c.turn .readingManifest files = (.readingProgram a.manifest, files) := by
  have present : files.isDirAt (c.at_ c.key.text) = true := own ▸ holds.isDirAt h
  obtain ⟨fs, found, -, manifest⟩ := holds
  have read : files.readText (c.at_ c.key.text ++ [.text manifestFile]) = .ok a.manifest.print :=
    own ▸ h.readText found manifest
  have named : (a.manifest.fingerprint.text == c.key.text) = true := by
    rw [← own]
    exact beq_self_eq_true _
  constructor
  · simp only [Call.turn, Call.move?, FileOp.run, present, if_true]
  · simp only [Call.turn, Call.move?, FileOp.run, read, Call.readManifestOf, storable.parse_print,
      named, if_true]

omit [DecidableEq ι] [DecidableEq κ] in
/-- A call that reads the program that is there to a manifest that it has read before. -/
theorem turn_readingProgram {c : Call} {a : Artifact} {m : Manifest}
    (h : c.store.Contains files es) (holds : Holds es a) (own : a.fingerprint = c.key)
    (same : m.language = a.manifest.language) :
    c.turn (.readingProgram m) files =
      (.returned (.ok (.alreadyPresent ⟨m, a.source⟩)), files) := by
  obtain ⟨fs, found, program, -⟩ := holds
  have read : files.readText (c.at_ c.key.text ++ [.text m.language.fileName]) = .ok a.source := by
    rw [same]
    exact own ▸ h.readText found program
  simp only [Call.turn, Call.move?, FileOp.run, read]

/-- A call that goes on alone stores its artifact if nothing stands in its way. -/
theorem promotes_alone (h : T.store.Contains r.files es)
    (todo : r.scripts (.inl i) =
      ExceptT.run (T.store.serve (.promote (T.artifacts i) (T.replaces i) (T.tags i))))
    (free : ∀ kind, kind.toList.length = 7 →
      es.find? (.text (sibling T.key kind (T.tags i))) = none)
    (entry : Vacant T.key es ∨
      r.files.isDirAt (T.store.place T.key.text) = true ∧ T.replaces i = true) :
    ∃ n es', T.store.Contains (r.run (List.replicate n (.inl i))).files es' ∧
      Holds es' (T.artifacts i) ∧ es.Differ (touched T.key (T.tags i)) es' ∧
      ∀ who, who ≠ .inl i →
        (r.run (List.replicate n (.inl i))).scripts who = r.scripts who := by
  obtain ⟨n, ran⟩ := r.run_alone (.inl i)
  obtain ⟨result, es', promoted, how⟩ := exec_promote h (T.artifacts i) (T.replaces i) (T.tags i)
  have files : (FileScript.run (r.scripts (.inl i)) r.files).2 = T.store.fill r.files es' := by
    rw [todo]
    show (exec (Answer.promoted <$> _) r.files).2 = _
    rw [exec_map, promoted]
  have key : (T.artifacts i).fingerprint = T.key := T.same i
  rw [key] at how
  refine ⟨n, es', ?_, ?_⟩
  · rw [ran, files]
    exact h.fill es'
  · suffices stored : Holds es' (T.artifacts i) ∧ es.Differ (touched T.key (T.tags i)) es' by
      refine ⟨stored.1, stored.2, fun who other => ?_⟩
      rw [ran]
      exact Function.update_of_ne other ..
    cases how with
    | kept there once =>
        rcases entry with vacant | ⟨-, replaces⟩
        · rw [vacant.isDirAt h] at there
          cases there
        · rw [once] at replaces
          cases replaces
    | stored mode holds differ =>
        refine ⟨holds fun fs found => ?_, key ▸ differ⟩
        rw [key] at found
        exact nomatch (free "staging" rfl).symm.trans found
    | failed e blocked =>
        rw [key] at blocked
        rcases blocked with taken | taken | ⟨taken, absent⟩
        · exact absurd (free "staging" rfl) taken
        · exact absurd (free "retired" rfl) taken
        · rcases entry with vacant | ⟨there, -⟩
          · exact absurd vacant taken
          · rw [there] at absent
            cases absent

/-- A lookup that runs alone finds the artifact that is there. -/
theorem finds_alone (h : T.store.Contains r.files es) (holds : Holds es (T.artifacts i))
    (todo : r.scripts (.inr j) = ExceptT.run (T.store.serve (.lookup T.key))) :
    ∃ n, (r.run (List.replicate n (.inr j))).result? (.inr j) =
      some (.ok (.found (some (T.artifacts i)))) := by
  obtain ⟨n, ran⟩ := r.run_alone (.inr j)
  have found := exec_lookup h holds (T.storable i) (T.intact i)
  rw [T.same i] at found
  have answer : (FileScript.run (r.scripts (.inr j)) r.files).1 =
      .ok (.found (some (T.artifacts i))) := by
    rw [todo]
    show (exec (Answer.found <$> _) r.files).1 = _
    rw [exec_map, found]
    rfl
  refine ⟨n, ?_⟩
  simp only [Race.result?, ran, Function.update_self, answer]

/-- A turn of a call takes its script from a phase to the next one. -/
theorem scripts_step {c : Call} {who : ι ⊕ κ} {p p' : Phase}
    (todo : r.scripts who = Except.map .promoted <$> c.script p)
    (turned : c.turn p r.files = (p', files)) :
    (r.step who).scripts who = Except.map .promoted <$> c.script p' ∧
      (r.step who).files = files := by
  have after : (r.scripts who).turn r.files = (Except.map .promoted <$> c.script p', files) := by
    rw [todo, FileScript.turn_map, Call.turn_script, turned]
  exact ⟨by rw [Race.scripts_step_self, after], by rw [Race.step, after]⟩

/-- **Any two artifacts can be torn.** A call that keeps what is there can return the manifest of
one artifact with the program of another one in the same language: another call replaces the first
artifact by the second one between its two readings. -/
theorem race_torn (T : Traffic ι) (opened : T.store.Contains files es)
    (vacant : Vacant T.key es)
    (free : ∀ i kind, es.find? (.text (sibling T.key kind (T.tags i))) = none) {i j k : ι}
    (ij : i ≠ j) (ik : i ≠ k) (jk : j ≠ k) (replaces : T.replaces j = true)
    (keeps : T.replaces k = false)
    (language : (T.artifacts i).manifest.language = (T.artifacts j).manifest.language) :
    ∃ turns, ((T.race κ files).run turns).result? (.inl k) =
      some (.ok (.promoted (.alreadyPresent
        ⟨(T.artifacts i).manifest, (T.artifacts j).source⟩))) := by
  have own (l : ι) : (T.artifacts l).fingerprint = (T.call k).key :=
    (T.same l).trans (T.call_key k).symm
  -- the first artifact is stored
  obtain ⟨n, es₁, opened₁, holds₁, differ₁, others₁⟩ :=
    promotes_alone (r := T.race κ files) opened rfl (fun kind _ => free i kind) (.inl vacant)
  generalize once : (T.race κ files).run (List.replicate n (.inl i)) = r₁ at opened₁ others₁
  -- the reader finds it and reads its manifest
  obtain ⟨looks, reads⟩ := turns_reading (c := T.call k) opened₁ holds₁ (own i) (T.storable i)
  have todo : r₁.scripts (.inl k) = Except.map .promoted <$> (T.call k).script .looking := by
    rw [others₁ _ (mt Sum.inl.inj ik.symm)]
    refine (run_map ..).trans ?_
    rw [keeps]
    rfl
  obtain ⟨todo, same⟩ := scripts_step todo looks
  rw [← same] at reads
  obtain ⟨todo, same'⟩ := scripts_step todo reads
  rw [same] at same'
  -- the entry is replaced by the second artifact
  generalize read : (r₁.step (.inl k)).step (.inl k) = r₂ at todo same'
  have todo₂ : r₂.scripts (.inl j) =
      ExceptT.run (T.store.serve (.promote (T.artifacts j) (T.replaces j) (T.tags j))) := by
    rw [← read, Race.scripts_step_of_ne _ (mt Sum.inl.inj jk),
      Race.scripts_step_of_ne _ (mt Sum.inl.inj jk), others₁ _ (mt Sum.inl.inj ij.symm)]
    rfl
  have present : r₂.files.isDirAt (T.store.place T.key.text) = true := by
    rw [same', ← T.same i]
    exact holds₁.isDirAt opened₁
  obtain ⟨m, es₂, opened₂, holds₂, -, others₂⟩ := promotes_alone (same'.symm ▸ opened₁) todo₂
    (fun kind long => (differ₁.same _ (Rivals.untouched ij.symm kind long)).trans (free j kind))
    (.inr ⟨present, replaces⟩)
  -- the reader reads the program that is there now
  obtain ⟨done, -⟩ := scripts_step ((others₂ _ (mt Sum.inl.inj jk.symm)).trans todo)
    (turn_readingProgram (c := T.call k) opened₂ holds₂ (own j) language)
  refine ⟨List.replicate n (.inl i) ++ ([.inl k, .inl k] ++
    (List.replicate m (.inl j) ++ [.inl k])), ?_⟩
  rw [Race.run_append, once, Race.run_append, Race.run_append]
  show Race.result? (((((r₁.step (.inl k)).step (.inl k)).run _).step (.inl k))) (.inl k) = _
  rw [read, Race.result?, done]
  rfl

/-! ### Three calls -/

/-- Three calls, the second of which replaces what is there. -/
inductive Caller where
  | first
  | second
  | third
  deriving DecidableEq

/-- The first two calls store different programs. -/
def trio : Traffic Caller where
  store := Rivals.pair.store
  key := Rivals.pair.key
  artifacts who := Rivals.pair.artifacts (who == .second)
  tags
    | .first => "1"
    | .second => "2"
    | .third => "3"
  same _ := Rivals.pair.same _
  storable _ := Rivals.pair.storable _
  distinct i j same := by cases i <;> cases j <;> simp at same ⊢
  replaces who := who == .second
  intact _ := beq_self_eq_true _

theorem digests_differ : (Sha256.hexOfText "a" == Sha256.hexOfText "b") = false := by
  decide +kernel

theorem trio_source (who : Caller) :
    (trio.artifacts who).source = if who = .second then "b" else "a" := by
  cases who <;> rfl

theorem trio_collisionless : trio.Collisionless := by
  intro i j
  have differ := beq_eq_false_iff_ne.1 digests_differ
  rw [trio_source, trio_source]
  by_cases hi : i = .second <;> by_cases hj : j = .second
  · rw [if_pos hi, if_pos hj]
    exact fun _ => rfl
  · rw [if_pos hi, if_neg hj]
    exact fun same => absurd same.symm differ
  · rw [if_neg hi, if_pos hj]
    exact fun same => absurd same differ
  · rw [if_neg hi, if_neg hj]
    exact fun _ => rfl

theorem opened_trio : trio.store.Contains Rivals.newShelf .none := rfl

theorem free_trio (who : Caller) (kind : String) :
    Entries.none.find? (.text (sibling trio.key kind (trio.tags who))) = none := rfl

theorem torn_trio : ∃ turns, ((trio.race Unit Rivals.newShelf).run turns).result? (.inl .third) =
    some (.ok (.promoted (.alreadyPresent
      ⟨(trio.artifacts .first).manifest, (trio.artifacts .second).source⟩))) := by
  have language (who : Caller) : (trio.artifacts who).manifest.language = .python := rfl
  exact race_torn trio opened_trio rfl free_trio nofun nofun nofun rfl rfl
    ((language _).trans (language _).symm)

/-- Two calls that store different programs and one that keeps what is there: it can return an
artifact that nobody has stored. -/
theorem torn_answer : ∃ turns a,
    ((trio.race Unit Rivals.newShelf).run turns).result? (.inl .third) =
      some (.ok (.promoted (.alreadyPresent a))) ∧
    a.isIntact = false ∧ ∀ who, a ≠ trio.artifacts who := by
  obtain ⟨turns, answered⟩ := torn_trio
  have damaged : Artifact.isIntact
      ⟨(trio.artifacts .first).manifest, (trio.artifacts .second).source⟩ = false := by
    have digest : (trio.artifacts .first).manifest.sourceDigest = Sha256.hexOfText "a" := rfl
    rw [Artifact.isIntact, trio_source, if_pos rfl, digest]
    exact beq_eq_false_iff_ne.2 (beq_eq_false_iff_ne.1 digests_differ).symm
  refine ⟨turns, _, answered, damaged, ?_⟩
  rintro who same
  rw [same, trio.intact who] at damaged
  cases damaged

theorem race_answers_trio :
    (∃ turns a, ((trio.race Unit Rivals.newShelf).run turns).result? (.inr ()) =
        some (.ok (.found (some a))) ∧ a.isIntact = true ∧ ∃ i, a = trio.artifacts i) ∧
      ∃ turns a, ((trio.race Unit Rivals.newShelf).run turns).result? (.inl .third) =
        some (.ok (.promoted (.alreadyPresent a))) ∧
        trio.Given a ∧ (a.isIntact = true ↔ ∃ j, a = trio.artifacts j) := by
  obtain ⟨found, present, -⟩ :=
    race_answers (κ := Unit) trio opened_trio rfl free_trio trio_collisionless
  constructor
  · obtain ⟨n, es, opened, holds, -, others⟩ := promotes_alone (i := .first)
      (r := trio.race Unit Rivals.newShelf) opened_trio rfl (fun _ _ => rfl) (.inl rfl)
    obtain ⟨m, answered⟩ := finds_alone opened holds (others (.inr ()) nofun)
    rw [← Race.run_append] at answered
    exact ⟨_, _, answered, found _ _ _ answered⟩
  · obtain ⟨turns, answered⟩ := torn_trio
    exact ⟨turns, _, answered, present _ _ _ answered⟩

end Traffic

end Store

end LabelForge
