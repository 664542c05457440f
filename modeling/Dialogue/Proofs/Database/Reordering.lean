import Mathlib.Data.List.Forall2
import Mathlib.Data.List.Perm.Basic
import Dialogue.Proofs.Database.Keys
import Dialogue.Proofs.Database.Problems

/-!
# Problems do not depend on order

Two databases are the same up to order (`Database.Reordered`) if one is made from the other by
moving actors, conversations, the entries of a conversation, or the links of an entry. The problems
of the two are then the same, as often as they come (`Database.Reordered.problems_perm`), valid or
not.

Where nothing has an order of its own this is plain: what an id names is there in both databases
(`Reordered.hasActor_eq`, `Reordered.hasEntry_eq`), and what is collected from the elements of a
list is collected from them in any order (`ReorderedBy.flatMap_perm`). Only what comes again is
found by looking back at what was seen before. An element that stands `n` times in a list comes
again `n - 1` times wherever it stands (`count_repeats`), so this does not depend on the order
either.
-/

namespace Dialogue

/-! ## Lists up to order -/

/-- The second list has the elements of the first in any order, each of them changed as the relation
allows. -/
def ReorderedBy {α : Type} (R : α → α → Prop) (l l' : List α) : Prop :=
  ∃ m, l.Perm m ∧ List.Forall₂ R m l'

namespace ReorderedBy

variable {α β : Type} {R : α → α → Prop} {l l' : List α}

/-- What is collected from the elements is the same up to order, if it is so for each element. -/
theorem flatMap_perm (h : ReorderedBy R l l') {f g : α → List β}
    (hfg : ∀ a b, R a b → (f a).Perm (g b)) : (l.flatMap f).Perm (l'.flatMap g) := by
  obtain ⟨m, hperm, hall⟩ := h
  have hpairs : (m.flatMap f).Perm (l'.flatMap g) := by
    clear hperm
    induction hall with
    | nil => exact .refl _
    | @cons a b m l' hab _ ih =>
        rw [List.flatMap_cons, List.flatMap_cons]
        exact (hfg a b hab).append ih
  exact (hperm.flatMap_right f).trans hpairs

/-- What the relation keeps of an element is kept up to order. -/
theorem map_perm (h : ReorderedBy R l l') {f : α → β} (hf : ∀ a b, R a b → f a = f b) :
    (l.map f).Perm (l'.map f) := by
  have hsingle := h.flatMap_perm (f := fun a => [f a]) (g := fun a => [f a]) fun a b hab => by
    rw [hf a b hab]
  rwa [← List.map_eq_flatMap, ← List.map_eq_flatMap] at hsingle

/-- Whether some element is of a kind that the relation keeps does not depend on the order. -/
theorem any_eq (h : ReorderedBy R l l') {p : α → Bool} (hp : ∀ a b, R a b → p a = p b) :
    l.any p = l'.any p := by
  have hany := (h.map_perm hp).any_eq (f := id)
  rwa [List.any_map, List.any_map] at hany

end ReorderedBy

/-! ## What comes again -/

section repeats

variable {α : Type} [DecidableEq α]

/-- An element that was seen comes again every time that it comes; else the first time is none. -/
theorem count_repeatsAfter (seen l : List α) (a : α) :
    (repeatsAfter seen l).count a = if a ∈ seen then l.count a else l.count a - 1 := by
  induction l generalizing seen with
  | nil => simp [repeatsAfter]
  | cons b l ih =>
      rw [repeatsAfter, List.count_cons]
      by_cases hb : b ∈ seen
      · rw [if_pos hb, List.count_cons, ih]
        by_cases hba : b = a
        · subst hba
          simp [hb]
        · simp [hba]
      · rw [if_neg hb, ih]
        by_cases hba : b = a
        · subst hba
          simp [hb]
        · have hab : a ≠ b := Ne.symm hba
          simp [hba, hab]

/-- An element comes again once less than it comes. -/
theorem count_repeats (l : List α) (a : α) : (repeats l).count a = l.count a - 1 := by
  rw [repeats, count_repeatsAfter, if_neg List.not_mem_nil]

/-- What comes again does not depend on the order. -/
theorem repeats_perm {l l' : List α} (h : l.Perm l') : (repeats l).Perm (repeats l') := by
  rw [List.perm_iff_count]
  intro a
  rw [count_repeats, count_repeats, h.count_eq]

end repeats

/-! ## Databases up to order -/

/-- The same entry, with its links in any order. -/
def Entry.Reordered (e e' : Entry) : Prop :=
  ∃ links, e.links.Perm links ∧ e' = { e with links }

/-- The same conversation, with its entries in any order, and the links of each. -/
def Conversation.Reordered (c c' : Conversation) : Prop :=
  ∃ entries, ReorderedBy Entry.Reordered c.entries entries ∧ c' = { c with entries }

/-- The same database, with its actors in any order, its conversations in any order, the entries of
each, and the links of each of those. -/
structure Database.Reordered (db db' : Database) : Prop where
  player : db'.player = db.player
  actors : db.actors.Perm db'.actors
  conversations : ReorderedBy Conversation.Reordered db.conversations db'.conversations

/-- An entry keeps its id. -/
theorem Entry.Reordered.id_eq {e e' : Entry} (h : e.Reordered e') : e.id = e'.id := by
  obtain ⟨links, -, rfl⟩ := h
  rfl

namespace Conversation.Reordered

variable {c c' : Conversation}

/-- A conversation keeps its id and its title. -/
theorem name_eq (h : c.Reordered c') : (c.id, c.title) = (c'.id, c'.title) := by
  obtain ⟨entries, -, rfl⟩ := h
  rfl

theorem id_eq (h : c.Reordered c') : c.id = c'.id :=
  congrArg Prod.fst h.name_eq

/-- An id is an entry's in both or in neither. -/
theorem any_entryId_eq (h : c.Reordered c') (id : EntryId) :
    c.entries.any (·.id = id) = c'.entries.any (·.id = id) := by
  obtain ⟨entries, hentries, rfl⟩ := h
  exact hentries.any_eq fun _ _ he => by rw [he.id_eq]

/-- What is wrong with the ids of the entries is the same, up to order. -/
theorem entryIdProblems_perm (h : c.Reordered c') :
    (Database.entryIdProblems c).Perm (Database.entryIdProblems c') := by
  have hstart := h.any_entryId_eq startId
  obtain ⟨entries, hentries, rfl⟩ := h
  have hids := repeats_perm (hentries.map_perm fun _ _ he => he.id_eq)
  unfold Database.entryIdProblems
  rw [hstart]
  exact (hids.map _).append (.refl _)

end Conversation.Reordered

namespace Database

/-- What is wrong with titles, in two parts: the conversations whose title is blank, and of the
other titles those that come again. -/
theorem titleProblemsAfter_perm (seen : List String) (cs : List Conversation) :
    (titleProblemsAfter seen cs).Perm
      (((cs.map fun c => (c.id, c.title)).filter (Text.isAllBlank ·.2.toList)).map
          (.blankTitle ·.1) ++
        (repeatsAfter seen
          ((cs.map (·.title)).filter (!Text.isAllBlank ·.toList))).map .duplicateTitle) := by
  induction cs generalizing seen with
  | nil => exact .refl _
  | cons c cs ih =>
      rw [titleProblemsAfter, List.map_cons, List.map_cons]
      by_cases hblank : Text.isAllBlank c.title.toList = true
      · rw [if_pos hblank, List.filter_cons_of_pos (by exact hblank),
          List.filter_cons_of_neg (by simpa using hblank)]
        exact (ih seen).cons _
      · rw [if_neg hblank, List.filter_cons_of_neg (by simpa using hblank),
          List.filter_cons_of_pos (by simpa using hblank), repeatsAfter]
        by_cases hseen : c.title ∈ seen
        · rw [if_pos hseen, if_pos hseen, List.map_cons]
          exact ((ih seen).cons _).trans List.perm_middle.symm
        · rw [if_neg hseen, if_neg hseen]
          exact ih _

/-- What is wrong with titles is the same, up to order, for conversations of the same ids and
titles. -/
theorem titleProblems_perm {cs cs' : List Conversation}
    (h : (cs.map fun c => (c.id, c.title)).Perm (cs'.map fun c => (c.id, c.title))) :
    (titleProblemsAfter [] cs).Perm (titleProblemsAfter [] cs') := by
  have htitles : (cs.map (·.title)).Perm (cs'.map (·.title)) := by
    have hsnd := h.map Prod.snd
    rwa [List.map_map, List.map_map] at hsnd
  refine (titleProblemsAfter_perm [] cs).trans (.trans ?_ (titleProblemsAfter_perm [] cs').symm)
  exact ((h.filter _).map _).append ((repeats_perm (htitles.filter _)).map _)

namespace Reordered

variable {db db' : Database} {c c' : Conversation} {e e' : Entry}

/-! ### What an id names -/

theorem hasActor_eq (h : db.Reordered db') (id : ActorId) : db.hasActor id = db'.hasActor id :=
  h.actors.any_eq

theorem hasConversation_eq (h : db.Reordered db') (id : ConversationId) :
    db.hasConversation id = db'.hasConversation id :=
  h.conversations.any_eq fun _ _ hc => by rw [hc.id_eq]

theorem hasEntry_eq (h : db.Reordered db') (ref : EntryRef) :
    db.hasEntry ref = db'.hasEntry ref :=
  h.conversations.any_eq fun _ _ hc => by rw [hc.id_eq, hc.any_entryId_eq]

/-! ### One rule at a time -/

theorem actorProblems_eq (h : db.Reordered db') : db.actorProblems = db'.actorProblems := by
  funext id mention
  rw [actorProblems, actorProblems, h.hasActor_eq]

theorem playerProblems_eq (h : db.Reordered db') : db.playerProblems = db'.playerProblems := by
  have hempty : db.conversations.isEmpty = db'.conversations.isEmpty := by
    have hids : (db.conversations.map (·.id)).Perm (db'.conversations.map (·.id)) :=
      h.conversations.map_perm fun _ _ hc => hc.id_eq
    simpa using hids.isEmpty_eq
  unfold playerProblems
  rw [h.player, hempty, h.actorProblems_eq]

/-- What is wrong with an entry does not depend on what stands before and after it. -/
theorem entryProblems_perm (h : db.Reordered db') (hc : c.Reordered c') (he : e.Reordered e') :
    (db.entryProblems c e).Perm (db'.entryProblems c' e') := by
  obtain ⟨links, hlinks, rfl⟩ := he
  obtain ⟨entries, -, rfl⟩ := hc
  have hlink : ∀ l, db.linkProblems c e l =
      db'.linkProblems { c with entries } { e with links } l := by
    intro l
    unfold linkProblems
    rw [h.hasConversation_eq, h.hasEntry_eq]
  have hproblems : (e.links.flatMap (db.linkProblems c e)).Perm
      (links.flatMap (db'.linkProblems { c with entries } { e with links })) :=
    hlinks.flatMap fun l _ => .of_eq (hlink l)
  unfold entryProblems
  rw [h.actorProblems_eq]
  exact hproblems.append_left _

theorem conversationProblems_perm (h : db.Reordered db') (hc : c.Reordered c') :
    (db.conversationProblems c).Perm (db'.conversationProblems c') := by
  have hsame := hc
  obtain ⟨entries, hentries, rfl⟩ := hc
  have hproblems : (c.entries.flatMap (db.entryProblems c)).Perm
      (entries.flatMap (db'.entryProblems { c with entries })) :=
    hentries.flatMap_perm fun _ _ he => h.entryProblems_perm hsame he
  unfold conversationProblems
  rw [h.actorProblems_eq]
  exact hproblems.append_left _

/-! ### All rules -/

/-- The problems of two databases that are the same up to order are the same up to order. -/
theorem problems_perm (h : db.Reordered db') : db.problems.Perm db'.problems := by
  have hactors := (repeats_perm (h.actors.map (·.id))).map fun id =>
    Problem.duplicateId (.actor id)
  have hids := (repeats_perm (h.conversations.map_perm fun _ _ hc => hc.id_eq)).map fun id =>
    Problem.duplicateId (.conversation id)
  have htitles := titleProblems_perm (h.conversations.map_perm (f := fun c => (c.id, c.title))
    fun _ _ hc => hc.name_eq)
  have hplayer := List.Perm.of_eq h.playerProblems_eq
  have hentryIds := h.conversations.flatMap_perm fun _ _ hc => hc.entryIdProblems_perm
  have hnames := h.conversations.flatMap_perm fun _ _ hc => h.conversationProblems_perm hc
  unfold problems
  exact ((((hactors.append hids).append htitles).append hplayer).append hentryIds).append hnames

end Reordered

/-! ## No problems at all -/

/-- Where conversations and entries have distinct ids, an entry is there exactly if the look-ups
find one. -/
theorem Orderly.isSome_entryAt? {db : Database} (h : db.Orderly) (ref : EntryRef) :
    (db.entryAt? ref).isSome = db.hasEntry ref := by
  rw [Bool.eq_iff_iff, hasEntry_iff]
  constructor
  · intro hsome
    obtain ⟨e, he⟩ := Option.isSome_iff_exists.1 hsome
    obtain ⟨c, hc, hfound⟩ := Option.bind_eq_some_iff.1 he
    have hid : c.id = ref.conversation := by simpa using List.find?_some hc
    have heid : e.id = ref.entry := by simpa using List.find?_some hfound
    exact ⟨c, List.mem_of_find?_eq_some hc, hid, e, List.mem_of_find?_eq_some hfound, heid⟩
  · rintro ⟨c, hc, hid, e, he, heid⟩
    rw [entryAt?, conversationById?, find?_of_nodup h.conversationIds hc hid, Option.bind_some,
      Conversation.entryById?, List.find?_isSome]
    exact ⟨e, he, by simpa using heid⟩

/-- A database has no problems exactly if it is orderly and the look-ups find the entry that each
link leads to; and the problems of any database, as often as they come, do not depend on the order
of its actors, conversations, entries and links. -/
theorem problems_eq_nil_iff_and_perm (db : Database) :
    (db.problems = [] ↔
      db.Orderly ∧ ∀ c ∈ db.conversations, ∀ e ∈ c.entries, ∀ l ∈ e.links,
        ∃ d, db.conversationById? l.destination.conversation = some d ∧
          (d.entryById? l.destination.entry).isSome) ∧
      ∀ db', db.Reordered db' → db.problems.Perm db'.problems := by
  refine ⟨problems_eq_nil_iff.trans (and_congr_right fun h => ?_), fun db' h => h.problems_perm⟩
  have hfound : ∀ ref : EntryRef, db.hasEntry ref = true ↔
      ∃ d, db.conversationById? ref.conversation = some d ∧ (d.entryById? ref.entry).isSome := by
    intro ref
    rw [← h.isSome_entryAt?, entryAt?, Option.isSome_bind]
    rcases db.conversationById? ref.conversation with _ | d <;> simp
  simp only [hfound]

/-- Two conversations of one id, with links that lead to no entry. -/
def sharedId : Database where
  player := some 1
  actors := [⟨1, "Player", true⟩, ⟨2, "Bob", false⟩]
  conversations :=
    [⟨1, "Gate", none, [.blank 0 1 1, ((Entry.blank 1 1 2).linkTo ⟨1, 5⟩).linkTo ⟨3, 0⟩]⟩,
      ⟨1, "Hall", none, [.blank 2 1 2, .blank 2 1 1]⟩]

/-- The same with all lists the other way round. -/
def sharedIdReversed : Database where
  player := sharedId.player
  actors := sharedId.actors.reverse
  conversations := sharedId.conversations.reverse.map fun c =>
    { c with entries := c.entries.reverse.map fun e => { e with links := e.links.reverse } }

/-- All lists of a database with problems the other way round. -/
theorem problems_eq_nil_iff_and_perm_sharedId :
    sharedId.Reordered sharedIdReversed ∧ sharedId.problems ≠ sharedIdReversed.problems ∧
      sharedId.problems.Perm sharedIdReversed.problems := by
  have hreversed : sharedId.Reordered sharedIdReversed := by
    refine ⟨rfl, (List.reverse_perm _).symm, _, (List.reverse_perm _).symm, ?_⟩
    refine List.forall₂_map_right_iff.2 (List.forall₂_same.2 ?_)
    intro c _
    refine ⟨_, ⟨_, (List.reverse_perm _).symm, ?_⟩, rfl⟩
    refine List.forall₂_map_right_iff.2 (List.forall₂_same.2 ?_)
    intro e _
    exact ⟨_, (List.reverse_perm _).symm, rfl⟩
  exact ⟨hreversed, by decide, (problems_eq_nil_iff_and_perm sharedId).2 _ hreversed⟩

end Database

end Dialogue
