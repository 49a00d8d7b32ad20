import LabelForge.Proofs.Store.Listing

/-!
# LabelForge.Proofs.Store.Refinement

**The store is a write-once map.** To whoever uses it alone, a store that was opened on an empty
directory is a map from fingerprints to artifacts: every answer is the answer of the map, and
after every request the entries of the root are exactly those of the map.

`Represents` ties the root to the map. A request keeps the tie (`exec_serves`), and so does every
sequence of requests (`serveAll_serves`).
-/

namespace LabelForge

open FileTree (Entries)

/-- Which artifact there is for each fingerprint. -/
abbrev Catalog := Fingerprint → Option Artifact

namespace Catalog

/-- The map without artifacts. -/
def empty : Catalog := fun _ => none

/-- The map with an artifact under its fingerprint. -/
def put (c : Catalog) (a : Artifact) : Catalog := fun f =>
  if f = a.fingerprint then some a else c f

/-- Whether manifests are exactly those of the map, each once and the newest first. -/
structure Lists (c : Catalog) (ms : List Manifest) : Prop where
  mem : ∀ m, m ∈ ms ↔ ∃ f a, c f = some a ∧ m = a.manifest
  nodup : ms.Nodup
  newest : ms.Pairwise fun m m' => (Moment.cmp m'.promotedAt m.promotedAt).isLE = true

end Catalog

namespace Store

/-- What a store is asked to do. -/
inductive Request where
  /-- To store an artifact; the hidden names get the tag. -/
  | promote (a : Artifact) (replace : Bool) (tag : String)
  | lookup (f : Fingerprint)
  | list

/-- What a store answers. -/
inductive Answer where
  | promoted (result : Promotion)
  | found (a : Option Artifact)
  | listed (ms : List Manifest)

/-- The answer of a map, and the map afterwards. -/
inductive Serves : Catalog → Request → Answer → Catalog → Prop where
  /-- An artifact with a new fingerprint is put into the map. -/
  | created {c : Catalog} {a : Artifact} {replace : Bool} {tag : String}
      (free : c a.fingerprint = none) :
    Serves c (.promote a replace tag) (.promoted .created) (c.put a)
  /-- An artifact whose fingerprint is known changes nothing, and the one that is there is
  returned. -/
  | kept {c : Catalog} {a b : Artifact} {tag : String} (known : c a.fingerprint = some b) :
    Serves c (.promote a false tag) (.promoted (.alreadyPresent b)) c
  /-- It is put into the map all the same if that is asked for. -/
  | replaced {c : Catalog} {a b : Artifact} {tag : String} (known : c a.fingerprint = some b) :
    Serves c (.promote a true tag) (.promoted .replaced) (c.put a)
  | lookup {c : Catalog} (f : Fingerprint) : Serves c (.lookup f) (.found (c f)) c
  | list {c : Catalog} {ms : List Manifest} (lists : c.Lists ms) : Serves c .list (.listed ms) c

/-- The answers of a map to a sequence of requests, and the map afterwards. -/
inductive ServesAll : Catalog → List Request → List Answer → Catalog → Prop where
  | nil (c : Catalog) : ServesAll c [] [] c
  | cons {c c' c'' : Catalog} {r : Request} {rs : List Request} {answer : Answer}
      {answers : List Answer} (first : Serves c r answer c') (rest : ServesAll c' rs answers c'') :
    ServesAll c (r :: rs) (answer :: answers) c''

/-- Serves a request. -/
def serve (s : Store) : Request → StoreScript Answer
  | .promote a replace tag => Answer.promoted <$> s.promote a replace tag
  | .lookup f => Answer.found <$> s.lookup f
  | .list => Answer.listed <$> s.list

/-- Serves requests one after the other, whether or not they fail. -/
def serveAll (s : Store) : List Request → FileTree → List (Except StoreError Answer) × FileTree
  | [], files => ([], files)
  | r :: rs, files =>
    let (answer, files) := exec (s.serve r) files
    let (answers, files) := s.serveAll rs files
    (answer :: answers, files)

/-- An artifact that can be handed to a store: it is intact, and its manifest can be written. -/
def Request.Proper : Request → Prop
  | .promote a _ _ => a.isIntact = true ∧ a.manifest.Storable
  | _ => True

/-! ### The tie between the root and the map -/

/-- The entries of the root are those of the map and nothing else. -/
structure Represents (es : Entries) (c : Catalog) : Prop where
  /-- Every entry is the entry of a fingerprint in the map. -/
  only : ∀ name, es.find? name ≠ none → ∃ f, name = .text f.text ∧ c f ≠ none
  /-- Every artifact of the map is in its entry. -/
  holds : ∀ f a, c f = some a →
    a.fingerprint = f ∧ Holds es a ∧ a.manifest.Storable ∧ a.isIntact = true
  /-- No name occurs twice. -/
  distinct : es.names.Nodup

theorem represents_empty : Represents .none .empty where
  only := fun _ ne => absurd rfl ne
  holds := fun _ _ h => nomatch h
  distinct := List.nodup_nil

variable {s : Store} {files : FileTree} {es es' : Entries} {c : Catalog} {a : Artifact}
  {f : Fingerprint}

theorem Represents.free (h : Represents es c) (free : c f = none) :
    es.find? (.text f.text) = none := by
  refine Decidable.byContradiction fun taken => ?_
  obtain ⟨g, same, known⟩ := h.only _ taken
  obtain rfl : f = g := Fingerprint.ext (FileName.text.inj same)
  exact known free

/-- No hidden name is taken. -/
theorem Represents.hidden (h : Represents es c) (f : Fingerprint) (kind tag : String) :
    es.find? (.text (sibling f kind tag)) = none := by
  refine Decidable.byContradiction fun taken => ?_
  obtain ⟨g, same, -⟩ := h.only _ taken
  exact sibling_ne_text f g kind tag (FileName.text.inj same)

/-- There is a directory for exactly the fingerprints in the map. -/
theorem Represents.isDirAt (h : Represents es c) (contains : s.Contains files es)
    (f : Fingerprint) : files.isDirAt (s.place f.text) = (c f).isSome := by
  cases known : c f with
  | none =>
      rw [contains.isDirAt, h.free known]
      rfl
  | some a =>
      obtain ⟨rfl, holds, -⟩ := h.holds f a known
      exact holds.isDirAt contains

/-- The tie after an artifact was put into its entry. -/
theorem Represents.put (h : Represents es c) {tag : String} (holds : Holds es' a)
    (storable : a.manifest.Storable) (intact : a.isIntact = true)
    (differ : es.Differ (touched a.fingerprint tag) es')
    (staged : es'.find? (staging a.fingerprint tag) = none)
    (gone : es'.find? (retired a.fingerprint tag) = none) : Represents es' (c.put a) where
  only := by
    intro name taken
    by_cases own : name = .text a.fingerprint.text
    · exact ⟨a.fingerprint, own, by simp [Catalog.put]⟩
    · have same : es'.find? name = es.find? name := by
        refine differ.same name ?_
        simp only [touched, List.mem_cons, List.not_mem_nil, or_false, not_or]
        exact ⟨own, fun h => taken (h ▸ staged), fun h => taken (h ▸ gone)⟩
      obtain ⟨g, rfl, known⟩ := h.only name (same ▸ taken)
      refine ⟨g, rfl, ?_⟩
      have other : g ≠ a.fingerprint := by
        rintro rfl
        exact own rfl
      rw [Catalog.put, if_neg other]
      exact known
  holds := by
    intro g b known
    by_cases own : g = a.fingerprint
    · rw [Catalog.put, if_pos own, Option.some.injEq] at known
      subst known
      exact ⟨own.symm, holds, storable, intact⟩
    · rw [Catalog.put, if_neg own] at known
      obtain ⟨rfl, before, rest⟩ := h.holds g b known
      refine ⟨rfl, ?_, rest⟩
      obtain ⟨fs, found, files⟩ := before
      refine ⟨fs, ?_, files⟩
      rw [differ.same, found]
      simp only [touched, List.mem_cons, List.not_mem_nil, or_false, not_or]
      exact ⟨fun h => own (Fingerprint.ext (FileName.text.inj h)),
        (staging_ne_text _ _ tag).symm, (retired_ne_text _ _ tag).symm⟩
  distinct := differ.nodup h.distinct

/-! ### Listing -/

/-- The manifests that stand in the directories that they name are those of the map. -/
theorem Represents.named (h : Represents es c) (m : Manifest) :
    Named es m ↔ ∃ f a, c f = some a ∧ m = a.manifest := by
  constructor
  · intro named
    obtain ⟨fs, found, -⟩ := id named
    obtain ⟨f, same, known⟩ := h.only (.text m.fingerprint.text) (by simp [found])
    obtain ⟨a, known⟩ := Option.ne_none_iff_exists'.mp known
    obtain ⟨rfl, holds, storable, -⟩ := h.holds f a known
    have own : m.fingerprint = a.fingerprint := Fingerprint.ext (FileName.text.inj same)
    exact ⟨_, a, known, named.unique (holds.named storable) own⟩
  · rintro ⟨f, a, known, rfl⟩
    obtain ⟨-, holds, storable, -⟩ := h.holds f a known
    exact holds.named storable

theorem exec_list (h : Represents es c) (contains : s.Contains files es) :
    ∃ ms, exec s.list files = (.ok ms, files) ∧ c.Lists ms := by
  obtain ⟨ms, ran, listing⟩ := exec_list_contains contains
  have distinct := listing.once h.distinct
  have once : ms.Nodup :=
    List.Pairwise.of_map _ (fun _ _ other same => other (congrArg _ same)) distinct
  refine ⟨ms, ran, fun m => ?_, once, listing.newest⟩
  rw [listing.mem, h.named]

/-! ### Requests -/

/-- Every request of a proper artifact is served as by the map, and the tie is kept. -/
theorem exec_serves (h : Represents es c) (contains : s.Contains files es) (r : Request)
    (proper : r.Proper) :
    ∃ answer es' c', exec (s.serve r) files = (.ok answer, s.fill files es') ∧
      Serves c r answer c' ∧ Represents es' c' := by
  cases r with
  | promote a replace tag =>
      obtain ⟨intact, storable⟩ := proper
      have staged := h.hidden a.fingerprint "staging" tag
      have gone := h.hidden a.fingerprint "retired" tag
      obtain ⟨result, es', ran, promoted⟩ := exec_promote contains a replace tag
      have answered : exec (s.serve (.promote a replace tag)) files =
          (result.map Answer.promoted, s.fill files es') := by
        rw [serve, exec_map, ran]
      rw [h.isDirAt contains] at promoted
      cases promoted with
      | kept there once =>
          obtain ⟨b, known⟩ := Option.isSome_iff_exists.mp there
          obtain ⟨same, holds, storable, -⟩ := h.holds _ b known
          have read := exec_readEntry contains holds storable
          rw [same] at read
          rw [read] at answered
          subst once
          exact ⟨_, es, c, answered, .kept known, h⟩
      | stored mode holds differ staged' gone' =>
          have gone' : es'.find? (retired a.fingerprint tag) = none := by
            rcases gone' with none | same
            · exact none
            · exact same.trans gone
          have regular : Regular es (staging a.fingerprint tag) := by
            intro fs found
            rw [staged] at found
            cases found
          have tie := h.put (holds regular) storable intact differ staged' gone'
          cases known : c a.fingerprint with
          | none =>
              rw [known] at answered
              exact ⟨_, es', _, answered, .created known, tie⟩
          | some b =>
              obtain rfl : replace = true := mode (by rw [known]; rfl)
              rw [known] at answered
              exact ⟨_, es', _, answered, .replaced known, tie⟩
      | failed e blocked differ own =>
          -- nothing but entries of the map is in the root, so no name can be taken
          rcases blocked with taken | taken | ⟨taken, absent⟩
          · exact absurd staged taken
          · exact absurd gone taken
          · exact absurd (h.free (by simpa using absent)) taken
  | lookup f =>
      refine ⟨.found (c f), es, c, ?_, .lookup f, h⟩
      rw [serve, exec_map, contains.fill_self]
      cases known : c f with
      | none => rw [exec_lookup_none contains (h.free known)]; rfl
      | some a =>
          obtain ⟨rfl, holds, storable, intact⟩ := h.holds f a known
          rw [exec_lookup contains holds storable intact]
          rfl
  | list =>
      obtain ⟨ms, listed, lists⟩ := exec_list h contains
      refine ⟨.listed ms, es, c, ?_, .list lists, h⟩
      rw [serve, exec_map, listed, contains.fill_self]
      rfl

theorem serveAll_serves (h : Represents es c) (contains : s.Contains files es)
    (rs : List Request) (proper : ∀ r ∈ rs, r.Proper) :
    ∃ answers es' c', s.serveAll rs files = (answers.map .ok, s.fill files es') ∧
      ServesAll c rs answers c' ∧ Represents es' c' := by
  induction rs generalizing files es c with
  | nil => exact ⟨[], es, c, by rw [contains.fill_self]; rfl, .nil c, h⟩
  | cons r rs ih =>
      obtain ⟨answer, es₁, c₁, first, served, tie⟩ :=
        exec_serves h contains r (proper r (List.mem_cons_self ..))
      obtain ⟨answers, es', c', rest, all, last⟩ :=
        ih tie (contains.fill es₁) fun r later => proper r (List.mem_cons_of_mem _ later)
      rw [contains.fill_fill] at rest
      refine ⟨answer :: answers, es', c', ?_, .cons served all, last⟩
      simp only [serveAll, first, rest, List.map_cons]

/-- **The store is a write-once map.** Beginning with an empty root, every sequence of requests is
answered as by the map that begins without artifacts, and no request fails. Nothing outside the
root changes, and the names in the root are then exactly the fingerprints of the map; as every
beginning of a sequence is a sequence, this is so after each of the requests. -/
theorem serveAll_empty (s : Store) (files : FileTree) (opened : s.Contains files .none)
    (rs : List Request) (proper : ∀ r ∈ rs, r.Proper) :
    ∃ answers es c, s.serveAll rs files = (answers.map .ok, s.fill files es) ∧
      ServesAll .empty rs answers c ∧ es.names.Nodup ∧
      ∀ name, name ∈ es.names ↔ ∃ f, name = .text f.text ∧ c f ≠ none := by
  obtain ⟨answers, es, c, ran, served, tie⟩ :=
    serveAll_serves represents_empty opened rs proper
  refine ⟨answers, es, c, ran, served, tie.distinct, fun name => ?_⟩
  rw [Entries.mem_names, Option.isSome_iff_ne_none]
  constructor
  · exact tie.only name
  · rintro ⟨f, rfl, known⟩
    obtain ⟨a, known⟩ := Option.ne_none_iff_exists'.mp known
    obtain ⟨rfl, ⟨fs, found, -⟩, -⟩ := tie.holds f a known
    rw [found]
    exact nofun

theorem serveAll_empty_shelf :
    shelf.Contains (.directory (.entry "shelf" .empty .none)) .none ∧
      ∃ answers es c, shelf.serveAll [.promote (keepAll "a") false "1",
          .promote (keepAll "b") false "2", .promote (keepAll "b") true "3",
          .lookup (keepAll "a").fingerprint, .list]
        (.directory (.entry "shelf" .empty .none)) =
          (answers.map .ok, shelf.fill (.directory (.entry "shelf" .empty .none)) es) ∧
        ServesAll .empty [.promote (keepAll "a") false "1", .promote (keepAll "b") false "2",
          .promote (keepAll "b") true "3", .lookup (keepAll "a").fingerprint, .list] answers c ∧
        es.names.Nodup ∧ ∀ name, name ∈ es.names ↔ ∃ f, name = .text f.text ∧ c f ≠ none := by
  have opened : shelf.Contains (.directory (.entry "shelf" .empty .none)) .none := by rfl
  refine ⟨opened, serveAll_empty shelf _ opened _ ?_⟩
  simp only [List.forall_mem_cons]
  exact ⟨proper_keepAll "a", proper_keepAll "b", proper_keepAll "b", trivial, trivial, nofun⟩

end Store

end LabelForge
