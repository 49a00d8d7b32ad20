import LabelForge.Proofs.Store.Phase

/-!
# LabelForge.Proofs.Store.Rivals

**Promotions of one fingerprint at the same time.** Several calls store artifacts of one fingerprint
and none of them asks to replace an entry. As long as no call moves an entry out of the way, the
root is `Orderly`: there is no entry and nobody has returned, or there is the entry of the one call
that made it and all others are on their way to it. A call whose second test finds the entry of
another one does move it away, and then the first artifact is lost for good (`Spoiled`).

Design points:

* A state of the race is read through the phases of the calls and the entries of the root
  (`Reaches`); one turn is one of the `Moves`.
* Each invariant has one lemma for a turn and one for all turns.
-/

namespace LabelForge.Store

open FileTree (Entries)

/-- Calls that store artifacts of one fingerprint, each with hidden names of its own. -/
structure Rivals (ι : Type) where
  store : Store
  key : Fingerprint
  artifacts : ι → Artifact
  tags : ι → String
  same : ∀ i, (artifacts i).fingerprint = key
  storable : ∀ i, (artifacts i).manifest.Storable
  distinct : Function.Injective tags

namespace Rivals

variable {ι : Type} (R : Rivals ι)

/-- The calls before their first step. -/
def race (files : FileTree) : Race ι (Except StoreError Promotion) where
  files := files
  scripts i := ExceptT.run (R.store.promote (R.artifacts i) false (R.tags i))

/-- No operation moves the entry out of the way. -/
def Undisturbed (ops : List FileOp) : Prop :=
  ∀ target, .rename (R.store.place R.key.text) target ∉ ops

/-- What callers are promised: one call has stored its artifact, all others have returned that one,
and nothing else has changed in the root. -/
structure Settled (es : Entries) (r : Race ι (Except StoreError Promotion)) (winner : ι) :
    Prop where
  created : r.result? winner = some (.ok .created)
  kept : ∀ i, i ≠ winner → r.result? i = some (.ok (.alreadyPresent (R.artifacts winner)))
  entry : r.files.at? (R.store.place R.key.text) = some (full (R.artifacts winner))
  rest : ∃ es', R.store.Contains r.files es' ∧
    ∀ name, name ≠ .text R.key.text → es'.find? name = es.find? name

/-! ### States of the race -/

/-- A call. -/
abbrev call (i : ι) : Call := ⟨R.store, R.artifacts i, R.tags i⟩

@[simp] theorem call_key (i : ι) : (R.call i).key = R.key := R.same i

/-- A state of the race: the phase of each call, and the entries of the root. Names that are neither
the entry nor hidden names of a call are as they were in the beginning. -/
structure Reaches (es₀ : Entries) (r : Race ι (Except StoreError Promotion)) (phases : ι → Phase)
    (es : Entries) : Prop where
  contains : R.store.Contains r.files es
  scripts : ∀ i, r.scripts i = (R.call i).script (phases i)
  hidden : ∀ i, (R.call i).Hidden (phases i) es
  entry : Vacant R.key es ∨ ∃ i, Stored R.key es (R.artifacts i)
  others : ∀ name, name ≠ .text R.key.text → (∀ i, name ∉ touched R.key (R.tags i)) →
    es.find? name = es₀.find? name

variable {R} {es₀ es es' : Entries} {r : Race ι (Except StoreError Promotion)}
  {phases : ι → Phase} {p' : Phase} {i j : ι} {files : FileTree}

/-- A call touches no hidden name of another call. -/
theorem untouched (other : j ≠ i) (kind : String) (long : kind.toList.length = 7) :
    FileName.text (sibling R.key kind (R.tags j)) ∉ touched R.key (R.tags i) := by
  have tags : R.tags j ≠ R.tags i := fun same => other (R.distinct same)
  simp only [touched, List.mem_cons, List.not_mem_nil, or_false, FileName.text.injEq, not_or]
  exact ⟨sibling_ne_text _ _ _ _, fun same => tags (sibling_inj long same).2,
    fun same => tags (sibling_inj long same).2⟩

/-- What a call does under its names leaves the hidden names of another call as they were. -/
theorem hidden_of_differ (other : j ≠ i) (h : (R.call j).Hidden (phases j) es)
    (differ : es.Differ (touched R.key (R.tags i)) es') : (R.call j).Hidden (phases j) es' := by
  have draft : es'.find? (.text (R.call j).draft) = es.find? (.text (R.call j).draft) := by
    rw [Call.draft, call_key]
    exact differ.same _ (untouched other "staging" rfl)
  have aside : es'.find? (.text (R.call j).aside) = es.find? (.text (R.call j).aside) := by
    rw [Call.aside, call_key]
    exact differ.same _ (untouched other "retired" rfl)
  exact ⟨fun fine => draft.trans (h.draft fine), aside ▸ h.aside, h.wrote⟩

/-- After a move there is no entry, or one of the artifacts has it. -/
theorem entry_of_moves (h : Vacant R.key es ∨ ∃ i, Stored R.key es (R.artifacts i)) {p : Phase}
    (m : (R.call i).Moves p es p' es') :
    Vacant R.key es' ∨ ∃ i, Stored R.key es' (R.artifacts i) := by
  have moved := m.entry (R.storable i)
  rw [call_key] at moved
  rcases moved with same | ⟨-, -, gone⟩ | ⟨_, -, -, -, stored⟩
  · rcases h with vacant | ⟨j, stored⟩
    · exact .inl (same.trans vacant)
    · exact .inr ⟨j, same.trans stored.found, stored.own, stored.storable⟩
  · exact .inl gone
  · exact .inr ⟨i, stored⟩

/-! ### Answers and operations of the calls -/

theorem Reaches.result? (h : R.Reaches es₀ r phases es) (i : ι)
    (result : Except StoreError Promotion) :
    r.result? i = some result ↔ phases i = .returned result := by
  have script := (R.call i).script_eq (phases i)
  rw [Race.result?, h.scripts i]
  split at script
  · rename_i found
    rw [script]
    refine ⟨fun returned => ?_, fun ended => ?_⟩
    · cases returned
    · rw [ended] at found
      cases found
  · obtain ⟨other, ended, script⟩ := script
    rw [script, ended, Option.some.injEq, Phase.returned.injEq]

theorem Reaches.next? (h : R.Reaches es₀ r phases es) (i : ι) :
    r.next? i = ((R.call i).move? (phases i)).map Sigma.fst := by
  have script := (R.call i).script_eq (phases i)
  rw [Race.next?, h.scripts i]
  split at script
  · rename_i found
    rw [script, found]
    rfl
  · rename_i none
    obtain ⟨_, -, script⟩ := script
    rw [script, none]
    rfl

/-- The entry is moved away in one phase only. -/
theorem Reaches.renames_iff (h : R.Reaches es₀ r phases es) (i : ι) :
    (∃ target, r.next? i = some (.rename (R.store.place R.key.text) target)) ↔
      phases i = .retiring := by
  have key : (R.artifacts i).fingerprint = R.key := R.same i
  rw [h.next?]
  constructor
  · rintro ⟨target, same⟩
    cases p : phases i <;> rw [p] at same <;> simp [Call.move?] at same
    -- the other renaming begins at a hidden name
    exact absurd (place_injective same.1) (sibling_ne_text _ _ _ _)
  · intro p
    rw [p]
    exact ⟨R.store.place (R.call i).aside, by simp [Call.move?, key]⟩

/-- In the beginning no call has done anything. -/
theorem reaches_race (opened : R.store.Contains files es) (vacant : Vacant R.key es)
    (free : ∀ i kind, es.find? (.text (sibling R.key kind (R.tags i))) = none) :
    R.Reaches es (R.race files) (fun _ => .looking) es where
  contains := opened
  scripts _ := rfl
  hidden i := by
    have key := R.call_key i
    refine ⟨fun _ => ?_, ?_, nofun⟩
    · rw [Call.draft, key]
      exact free i "staging"
    · show es.find? (.text (R.call i).aside) = none
      rw [Call.aside, key]
      exact free i "retired"
  entry := .inl vacant
  others _ _ _ := rfl

/-- Nothing is left under the hidden names of a call that has succeeded. -/
theorem Reaches.swept (h : R.Reaches es₀ r phases es) {result : Promotion}
    (returned : phases i = .returned (.ok result)) {name : FileName}
    (entry : name ≠ .text R.key.text) (mem : name ∈ touched R.key (R.tags i)) :
    es.find? name = none ∧ ∃ kind, name = .text (sibling R.key kind (R.tags i)) := by
  obtain ⟨draft, aside, -⟩ := h.hidden i
  rw [returned] at draft aside
  simp only [touched, List.mem_cons, List.not_mem_nil, or_false] at mem
  rcases mem with rfl | rfl | rfl
  · exact absurd rfl entry
  · refine ⟨?_, "staging", rfl⟩
    have none := draft nofun
    rw [Call.draft, call_key] at none
    exact none
  · refine ⟨?_, "retired", rfl⟩
    rw [Call.aside, call_key] at aside
    exact aside

/-! ### Calls that do not get in each other's way -/

variable (R) in
/-- There is no entry and nobody has returned, or there is the entry of one call that has made it
and all others find it. -/
inductive Orderly (phases : ι → Phase) (es : Entries) : Prop where
  | vacant (vacant : Vacant R.key es) (early : ∀ i, (phases i).Early)
  | stored (winner : ι) (stored : Stored R.key es (R.artifacts winner))
      (created : phases winner = .returned (.ok .created))
      (late : ∀ i, i ≠ winner → (phases i).Late (R.artifacts winner))

variable [DecidableEq ι]

theorem Orderly.step (h : R.Orderly phases es) (m : (R.call i).Moves (phases i) es p' es')
    (peaceful : phases i ≠ .retiring) : R.Orderly (Function.update phases i p') es' := by
  cases h with
  | vacant vacant early =>
      -- the call goes on without an entry, or it has just made the entry
      rcases m.early (R.call_key i ▸ vacant) (early i) (R.storable i) with
        ⟨early', vacant'⟩ | ⟨rfl, stored⟩
      · refine .vacant (R.call_key i ▸ vacant') fun j => ?_
        by_cases own : j = i
        · rw [own, Function.update_self]
          exact early'
        · rw [Function.update_of_ne own]
          exact early j
      · refine .stored i (R.call_key i ▸ stored) (Function.update_self ..) fun j own => ?_
        rw [Function.update_of_ne own]
        have before := early j
        cases h : phases j <;> rw [h] at before <;> first | exact before | exact before.elim
  | stored winner stored created late =>
      by_cases own : i = winner
      · -- the call that has made the entry has returned
        subst own
        rw [created] at m
        cases m
        rw [← created, Function.update_eq_self]
        exact .stored i stored created late
      · have late' := m.late (R.call_key i ▸ stored) (late i own) peaceful
        have stored' : Stored R.key es' (R.artifacts winner) := by
          have entry := m.entry (R.storable i)
          rw [call_key] at entry
          rcases entry with same | ⟨retiring, -⟩ | ⟨_, -, -, vacant, -⟩
          · exact ⟨same.trans stored.found, stored.own, stored.storable⟩
          · exact absurd retiring peaceful
          · exact nomatch vacant.symm.trans stored.found
        refine .stored winner stored' ?_ fun j other => ?_
        · rw [Function.update_of_ne (Ne.symm own)]
          exact created
        · by_cases same : j = i
          · rw [same, Function.update_self]
            exact late'
          · rw [Function.update_of_ne same]
            exact late j other

/-- A turn of a call is one of its moves. -/
theorem Reaches.step (h : R.Reaches es₀ r phases es) (i : ι) :
    ∃ p' es', (R.call i).Moves (phases i) es p' es' ∧
      R.Reaches es₀ (r.step i) (Function.update phases i p') es' := by
  have key : (R.call i).key = R.key := R.same i
  have entry : Vacant (R.call i).key es ∨ ∃ b, Stored (R.call i).key es b := by
    rw [key]
    exact h.entry.imp_right fun ⟨j, stored⟩ => ⟨_, stored⟩
  obtain ⟨es', files, moved⟩ := Call.moves h.contains (h.hidden i) entry
  have turned := (R.call i).turn_script (phases i) r.files
  rw [← h.scripts i] at turned
  have differ : es.Differ (touched R.key (R.tags i)) es' := key ▸ moved.differ
  refine ⟨_, es', moved, ?_, ?_, ?_, entry_of_moves h.entry moved, ?_⟩
  · have after : (r.step i).files = R.store.fill r.files es' :=
      (congrArg Prod.snd turned).trans files
    rw [after]
    exact h.contains.fill es'
  · intro j
    by_cases own : j = i
    · subst own
      rw [Race.scripts_step_self, Function.update_self]
      exact congrArg Prod.fst turned
    · rw [Race.scripts_step_of_ne _ own, Function.update_of_ne own]
      exact h.scripts j
  · intro j
    by_cases own : j = i
    · subst own
      rw [Function.update_self]
      exact moved.hidden (h.hidden j)
    · rw [Function.update_of_ne own]
      exact hidden_of_differ own (h.hidden j) differ
  · intro name entry free
    exact (differ.same name (free i)).trans (h.others name entry free)

/-- An orderly race stays so as long as no entry is moved away. -/
theorem orderly_run (h : R.Reaches es₀ r phases es) (orderly : R.Orderly phases es)
    (turns : List ι) (calm : R.Undisturbed (r.ops turns)) :
    ∃ phases es, R.Reaches es₀ (r.run turns) phases es ∧ R.Orderly phases es := by
  induction turns generalizing r phases es with
  | nil => exact ⟨phases, es, h, orderly⟩
  | cons i turns ih =>
      obtain ⟨p', es', moved, reaches⟩ := h.step i
      have peaceful : phases i ≠ .retiring := by
        intro retiring
        obtain ⟨target, next⟩ := (h.renames_iff i).2 retiring
        exact calm target (by simp [next])
      exact ih reaches (orderly.step moved peaceful)
        fun target mem => calm target (List.mem_append_right _ mem)

/-! ### The loss of an artifact -/

variable (R) in
/-- What has come of it that the entry which a call had made was moved away. -/
inductive Spoiled (phases : ι → Phase) (es : Entries) (first : ι) : Prop where
  /-- There is nothing in its place yet. -/
  | vacant (vacant : Vacant R.key es) (i : ι)
      (moving : phases i = .sweeping ∨ phases i = .installing true)
  /-- Another call has put its own entry there. -/
  | again (i : ι) (other : i ≠ first) (result : Promotion)
      (made : result = .created ∨ result = .replaced) (returned : phases i = .returned (.ok result))
  | failed (i : ι) (e : StoreError) (returned : phases i = .returned (.error e))

/-- A call that has returned stays as it is. -/
theorem returned_step {result : Except StoreError Promotion} (h : phases j = .returned result)
    (m : (R.call i).Moves (phases i) es p' es') :
    Function.update phases i p' j = .returned result := by
  by_cases own : j = i
  · subst own
    rw [h] at m
    cases m
    rw [Function.update_self]
  · rw [Function.update_of_ne own]
    exact h

theorem Spoiled.step {first : ι} (created : phases first = .returned (.ok .created))
    (h : R.Spoiled phases es first) (m : (R.call i).Moves (phases i) es p' es') :
    R.Spoiled (Function.update phases i p') es' first := by
  cases h with
  | again j other result made returned =>
      exact .again j other result made (returned_step returned m)
  | failed j e returned => exact .failed j e (returned_step returned m)
  | vacant vacant j moving =>
      have entry := m.entry (R.storable i)
      rw [call_key] at entry
      have vacant' : Vacant (R.call i).key es := R.call_key i ▸ vacant
      by_cases own : j = i
      · -- the call that has moved the entry away is about to put its own in its place
        subst own
        rcases moving with sweeping | installing
        · rw [sweeping] at m
          cases m
          refine .vacant ?_ j (.inr (Function.update_self ..))
          rcases entry with same | ⟨-, -, gone⟩ | ⟨_, -, ended, -⟩
          · exact same.trans vacant
          · exact gone
          · cases ended
        · have other : j ≠ first := by
            rintro rfl
            rw [created] at installing
            cases installing
          rw [installing] at m
          cases m with
          | installed => exact .again j other .replaced (.inr rfl) (Function.update_self ..)
          | refused stored => exact nomatch vacant'.symm.trans stored.found
      · rcases entry with same | ⟨-, -, gone⟩ | ⟨replaced, installing, rfl, -⟩
        · exact .vacant (same.trans vacant) j (by rwa [Function.update_of_ne own])
        · exact .vacant gone j (by rwa [Function.update_of_ne own])
        · have other : i ≠ first := by
            rintro rfl
            rw [created] at installing
            cases installing
          exact .again i other _ (by cases replaced <;> simp) (Function.update_self ..)

/-- A call that is about to move an entry away spoils an orderly race. -/
theorem Orderly.spoiled (h : R.Orderly phases es) (m : (R.call i).Moves (phases i) es p' es')
    (retiring : phases i = .retiring) :
    ∃ first, Function.update phases i p' first = .returned (.ok .created) ∧
      R.Spoiled (Function.update phases i p') es' first := by
  cases h with
  | vacant vacant early =>
      have none := early i
      rw [retiring] at none
      exact none.elim
  | stored winner stored created late =>
      refine ⟨winner, returned_step created m, ?_⟩
      rw [retiring] at m
      obtain ⟨rfl, gone⟩ := m.retire (R.call_key i ▸ stored)
      exact .vacant (R.call_key i ▸ gone) i (.inl (Function.update_self ..))

theorem spoiled_run {first : ι} (h : R.Reaches es₀ r phases es)
    (created : phases first = .returned (.ok .created)) (spoiled : R.Spoiled phases es first)
    (turns : List ι) :
    ∃ phases es, R.Reaches es₀ (r.run turns) phases es ∧
      phases first = .returned (.ok .created) ∧ R.Spoiled phases es first := by
  induction turns generalizing r phases es with
  | nil => exact ⟨phases, es, h, created, spoiled⟩
  | cons i turns ih =>
      obtain ⟨p', es', moved, reaches⟩ := h.step i
      exact ih reaches (returned_step created moved) (spoiled.step created moved)

/-- An orderly race is spoiled when an entry is moved away. -/
theorem disturbed_run (h : R.Reaches es₀ r phases es) (orderly : R.Orderly phases es)
    (turns : List ι) (disturbed : ¬ R.Undisturbed (r.ops turns)) :
    ∃ first phases es, R.Reaches es₀ (r.run turns) phases es ∧
      phases first = .returned (.ok .created) ∧ R.Spoiled phases es first := by
  induction turns generalizing r phases es with
  | nil => exact absurd (fun _ => List.not_mem_nil) disturbed
  | cons i turns ih =>
      obtain ⟨p', es', moved, reaches⟩ := h.step i
      by_cases retiring : phases i = .retiring
      · obtain ⟨first, created, spoiled⟩ := orderly.spoiled moved retiring
        exact ⟨first, spoiled_run reaches created spoiled turns⟩
      · refine ih reaches (orderly.step moved retiring) fun calm => disturbed fun target mem => ?_
        rcases List.mem_append.1 mem with now | later
        · exact retiring ((h.renames_iff i).1 ⟨target, by simpa using now⟩)
        · exact calm target later

/-! ### How a race ends -/

/-- In an orderly race the call that has made the entry is the winner. -/
theorem Orderly.winner (h : R.Orderly phases es) (created : phases i = .returned (.ok .created)) :
    Stored R.key es (R.artifacts i) ∧
      ∀ j, j ≠ i → (phases j).Late (R.artifacts i) := by
  cases h with
  | vacant vacant early =>
      have none := early i
      rw [created] at none
      exact none.elim
  | stored winner stored _ late =>
      by_cases own : i = winner
      · subst own
        exact ⟨stored, late⟩
      · have other := late i own
        rw [created] at other
        cases other

/-- Where all calls of an orderly race have returned, what was promised is so. -/
theorem Orderly.settled [Nonempty ι] (orderly : R.Orderly phases es)
    (h : R.Reaches es₀ r phases es)
    (free : ∀ i kind, es₀.find? (.text (sibling R.key kind (R.tags i))) = none)
    (returned : ∀ i, r.result? i ≠ none) : ∃ winner, R.Settled es₀ r winner := by
  have ended : ∀ i, ∃ result, phases i = .returned result := fun i => by
    obtain ⟨result, ended⟩ := Option.ne_none_iff_exists'.1 (returned i)
    exact ⟨result, (h.result? i result).1 ended⟩
  cases orderly with
  | vacant vacant early =>
      obtain ⟨i⟩ := ‹Nonempty ι›
      obtain ⟨result, ended⟩ := ended i
      have none := early i
      rw [ended] at none
      exact none.elim
  | stored winner stored created late =>
      have kept : ∀ i, i ≠ winner →
          phases i = .returned (.ok (.alreadyPresent (R.artifacts winner))) := by
        intro i other
        obtain ⟨result, ended⟩ := ended i
        have kept := late i other
        rw [ended] at kept ⊢
        exact congrArg _ kept
      refine ⟨winner, (h.result? _ _).2 created,
        fun i other => (h.result? _ _).2 (kept i other), ?_, es, h.contains, fun name entry => ?_⟩
      · rw [place, FileTree.at?_entry h.contains, stored.found]
      · by_cases hidden : ∃ i, name ∈ touched R.key (R.tags i)
        · obtain ⟨i, mem⟩ := hidden
          have success : ∃ result, phases i = .returned (.ok result) := by
            by_cases own : i = winner
            · exact ⟨_, own ▸ created⟩
            · exact ⟨_, kept i own⟩
          obtain ⟨_, success⟩ := success
          obtain ⟨none, kind, rfl⟩ := h.swept success entry mem
          exact none.trans (free i kind).symm
        · exact h.others name entry (not_exists.1 hidden)

/-- In a spoiled race what was promised is not so. -/
theorem Spoiled.not_settled {first winner : ι} (h : R.Reaches es₀ r phases es)
    (created : phases first = .returned (.ok .created)) (spoiled : R.Spoiled phases es first) :
    ¬ R.Settled es₀ r winner := by
  intro settled
  have answer : ∀ i, phases i = .returned (.ok .created) ∧ i = winner ∨
      phases i = .returned (.ok (.alreadyPresent (R.artifacts winner))) := by
    intro i
    by_cases own : i = winner
    · exact .inl ⟨(h.result? i _).1 (own ▸ settled.created), own⟩
    · exact .inr ((h.result? i _).1 (settled.kept i own))
  have same : first = winner := by
    rcases answer first with ⟨-, same⟩ | other
    · exact same
    · rw [created] at other
      cases other
  cases spoiled with
  | vacant vacant i moving =>
      rcases answer i with ⟨ended, -⟩ | ended <;> rw [ended] at moving <;> simp at moving
  | again i other result made ended =>
      rcases answer i with ⟨-, own⟩ | kept
      · exact other (own.trans same.symm)
      · rw [ended] at kept
        rcases made with rfl | rfl <;> cases kept
  | failed i e ended =>
      rcases answer i with ⟨other, -⟩ | other <;> rw [ended] at other <;> cases other

/-- **Concurrent promotions keep the first artifact as long as no entry is moved away.** Any number
of calls store artifacts of one fingerprint in a store without an entry for it, in any interleaving
of their operations. While no call has moved an entry out of the way, an entry that a call has
created holds that call's artifact for good. And when all calls have returned, it is exactly in this
case that one of them has created the entry, all others have returned its artifact, and nothing else
is left in the root. -/
theorem race_settled_iff [Nonempty ι] (R : Rivals ι) (opened : R.store.Contains files es)
    (vacant : Vacant R.key es)
    (free : ∀ i kind, es.find? (.text (sibling R.key kind (R.tags i))) = none) :
    (∀ turns later i, R.Undisturbed ((R.race files).ops (turns ++ later)) →
      ((R.race files).run turns).result? i = some (.ok .created) →
      ((R.race files).run (turns ++ later)).files.at? (R.store.place R.key.text) =
        some (full (R.artifacts i))) ∧
    ∀ turns, (∀ i, ((R.race files).run turns).result? i ≠ none) →
      ((∃ winner, R.Settled es ((R.race files).run turns) winner) ↔
        R.Undisturbed ((R.race files).ops turns)) := by
  have reaches := reaches_race opened vacant free
  have orderly : R.Orderly (fun _ => Phase.looking) es := .vacant vacant fun _ => trivial
  constructor
  · intro turns later i calm created
    obtain ⟨phases, es', now, still⟩ := orderly_run reaches orderly _ calm
    rw [Race.run_append] at now ⊢
    have winner := still.winner ((now.result? i _).1 (Race.result?_run created later))
    rw [place, FileTree.at?_entry now.contains, winner.1.found]
  · intro turns returned
    constructor
    · rintro ⟨winner, settled⟩
      by_contra disturbed
      obtain ⟨first, phases, es', now, created, spoiled⟩ :=
        disturbed_run reaches orderly turns disturbed
      exact spoiled.not_settled now created settled
    · intro calm
      obtain ⟨phases, es', now, still⟩ := orderly_run reaches orderly turns calm
      exact still.settled now free returned

/-! ### A lost artifact -/

/-- The fingerprint of zeros. -/
def zeros : Fingerprint where
  text := "0000000000000000000000000000000000000000000000000000000000000000"
  isHex := ⟨by decide, List.all_eq_true.1 (by decide)⟩

/-- An artifact with a program, under `zeros`. -/
def noteOf (source : String) : Artifact where
  manifest := {
    fingerprint := zeros
    language := .python
    attempt := 1
    sourceDigest := Sha256.hexOfText source
    promotedAt := ⟨0, 0⟩
    ruleCount := 1
    rowCount := 0
    distribution := [] }
  source := source

/-- Two calls, told apart by whether they are the second one. -/
def pair : Rivals Bool where
  store := shelf
  key := zeros
  artifacts second := noteOf (if second then "b" else "a")
  tags second := if second then "2" else "1"
  same _ := rfl
  storable second := {
    attempt := show 1 < 2 ^ 32 by decide
    ruleCount := show 1 < 2 ^ 64 by decide
    rowCount := show 0 < 2 ^ 64 by decide
    sorted := List.Pairwise.nil
    counts := by simp [noteOf]
    moment := show Moment.parse? (Moment.mk 0 0).text = some ⟨0, 0⟩ by decide +kernel }
  distinct := fun i j same => by cases i <;> cases j <;> simp at same ⊢

/-- A store that has just been opened. -/
def newShelf : FileTree := .directory (.entry "shelf" .empty .none)

/-- The first call writes its files and tests again; the second one writes its files; then the first
one makes its entry. -/
def ahead : List Bool := List.replicate 5 false ++ List.replicate 4 true ++ [false]

/-- Then the second call goes on: its second test finds the entry. -/
def overtaken : List Bool := ahead ++ List.replicate 4 true

set_option maxRecDepth 10000 in
/-- Neither call asks to replace an entry, and yet the second one does, and the first artifact is
lost. -/
theorem lost_overtaken :
    pair.store.Contains newShelf .none ∧ (∀ second, (pair.artifacts second).isIntact = true) ∧
      ((pair.race newShelf).run overtaken).result? false = some (.ok .created) ∧
      ((pair.race newShelf).run overtaken).result? true = some (.ok .replaced) ∧
      ((pair.race newShelf).run ahead).files.at? (pair.store.place pair.key.text) =
        some (full (pair.artifacts false)) ∧
      ((pair.race newShelf).run overtaken).files.at? (pair.store.place pair.key.text) =
        some (full (pair.artifacts true)) :=
  ⟨rfl, fun _ => beq_self_eq_true _, rfl, rfl, rfl, rfl⟩

set_option maxRecDepth 10000 in
theorem race_settled_iff_pair :
    ((pair.race newShelf).run ahead).files.at? (pair.store.place pair.key.text) =
        some (full (pair.artifacts false)) ∧
      ((∃ winner, pair.Settled .none ((pair.race newShelf).run overtaken) winner) ↔
        pair.Undisturbed ((pair.race newShelf).ops overtaken)) := by
  have opened : pair.store.Contains newShelf .none := rfl
  obtain ⟨kept, settled⟩ := race_settled_iff pair opened rfl fun _ _ => rfl
  refine ⟨kept ahead [] false ?_ rfl, settled overtaken ?_⟩
  · intro target mem
    have others : ((pair.race newShelf).ops (ahead ++ [])).all (fun
      | .rename source _ => source != pair.store.place pair.key.text
      | _ => true) = true := rfl
    have other := List.all_eq_true.1 others _ mem
    simp at other
  · intro second
    cases second <;> exact nofun

end Rivals

end LabelForge.Store
