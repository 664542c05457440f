import Mathlib.Data.List.Basic
import Dialogue.Database.Validity

/-!
# What it is to have no problems

`Database.Orderly` says all that the rules of a database ask for, except where links lead. A
database has no problems exactly if it is orderly and all its links lead to entries
(`problems_eq_nil_iff`). The problems of an orderly one are all about links that lead to no entry
(`Orderly.exists_of_mem_problems`).
-/

namespace Dialogue

/-! ## Orderly databases -/

/-- All is right about an entry of this conversation, except where its links lead. -/
structure Entry.Orderly (db : Database) (c : Conversation) (e : Entry) : Prop where
  conversation : e.conversation = c.id
  actor : db.hasActor e.actor = true
  conversant : ∀ id, e.conversant = some id → db.hasActor id = true
  origin : ∀ l ∈ e.links, l.origin = ⟨c.id, e.id⟩

/-- All is right about a conversation, except where its links lead. -/
structure Conversation.Orderly (db : Database) (c : Conversation) : Prop where
  title : Text.isAllBlank c.title.toList = false
  entryIds : (c.entries.map (·.id)).Nodup
  start : c.entries.any (·.id = startId) = true
  conversant : ∀ id, c.conversant = some id → db.hasActor id = true
  entries : ∀ e ∈ c.entries, e.Orderly db c

/-- All is right about a database, except where its links lead. -/
structure Database.Orderly (db : Database) : Prop where
  actorIds : (db.actors.map (·.id)).Nodup
  conversationIds : (db.conversations.map (·.id)).Nodup
  titles : (db.conversations.map (·.title)).Nodup
  player : ∀ id, db.player = some id → db.hasActor id = true
  noPlayer : db.player = none → db.conversations = []
  conversations : ∀ c ∈ db.conversations, c.Orderly db

/-- The problem of a link of this entry that leads to no entry. -/
def Database.missingDestination (db : Database) (c : Conversation) (e : Entry) (l : Link) :
    Problem :=
  if db.hasConversation l.destination.conversation then
    .missing (.entry l.destination) (.entryLink ⟨e.id, c.title⟩)
  else .missing (.conversation l.destination.conversation) (.entryLink ⟨e.id, c.title⟩)

/-! ## One rule at a time -/

@[simp] theorem problemUnless_eq_nil_iff {holds : Bool} {p : Problem} :
    problemUnless holds p = [] ↔ holds = true := by
  cases holds <;> simp [problemUnless]

theorem repeatsAfter_eq_nil_iff {α : Type} [DecidableEq α] {seen l : List α} :
    repeatsAfter seen l = [] ↔ l.Nodup ∧ ∀ a ∈ l, a ∉ seen := by
  induction l generalizing seen with
  | nil => simp [repeatsAfter]
  | cons a l ih =>
      rw [repeatsAfter]
      by_cases ha : a ∈ seen
      · simp [ha]
      · rw [if_neg ha, ih, List.nodup_cons]
        simp only [List.mem_cons, not_or, forall_eq_or_imp]
        constructor
        · intro ⟨hl, hseen⟩
          exact ⟨⟨fun hmem => (hseen a hmem).1 rfl, hl⟩, ha, fun b hb => (hseen b hb).2⟩
        · rintro ⟨⟨hnot, hl⟩, -, hseen⟩
          exact ⟨hl, fun b hb => ⟨fun hba => hnot (hba ▸ hb), hseen b hb⟩⟩

/-- Nothing comes again exactly if no two elements are the same. -/
theorem repeats_eq_nil_iff {α : Type} [DecidableEq α] {l : List α} :
    repeats l = [] ↔ l.Nodup := by
  rw [repeats, repeatsAfter_eq_nil_iff]
  simp

namespace Database

variable {db : Database} {c : Conversation} {e : Entry} {l : Link}

theorem titleProblemsAfter_eq_nil_iff {seen : List String} {cs : List Conversation} :
    titleProblemsAfter seen cs = [] ↔
      (∀ c ∈ cs, Text.isAllBlank c.title.toList = false) ∧ (cs.map (·.title)).Nodup ∧
        ∀ c ∈ cs, c.title ∉ seen := by
  induction cs generalizing seen with
  | nil => simp [titleProblemsAfter]
  | cons c cs ih =>
      rw [titleProblemsAfter]
      by_cases hblank : Text.isAllBlank c.title.toList = true
      · simp [hblank]
      · by_cases hseen : c.title ∈ seen
        · simp [hblank, hseen]
        · rw [if_neg hblank, if_neg hseen, ih, List.map_cons, List.nodup_cons]
          simp only [List.mem_cons, not_or, forall_eq_or_imp, List.mem_map, not_exists, not_and]
          constructor
          · intro ⟨hblanks, htitles, hfresh⟩
            exact ⟨⟨by simpa using hblank, hblanks⟩, ⟨fun d hd ht => (hfresh d hd).1 ht, htitles⟩,
              hseen, fun d hd => (hfresh d hd).2⟩
          · rintro ⟨⟨-, hblanks⟩, ⟨hnot, htitles⟩, -, hfresh⟩
            exact ⟨hblanks, htitles, fun d hd => ⟨fun ht => hnot d hd ht, hfresh d hd⟩⟩

theorem entryIdProblems_eq_nil_iff :
    entryIdProblems c = [] ↔
      (c.entries.map (·.id)).Nodup ∧ c.entries.any (·.id = startId) = true := by
  rw [entryIdProblems, List.append_eq_nil_iff, List.map_eq_nil_iff, repeats_eq_nil_iff,
    problemUnless_eq_nil_iff]

theorem playerProblems_eq_nil_iff :
    db.playerProblems = [] ↔
      (∀ id, db.player = some id → db.hasActor id = true) ∧
        (db.player = none → db.conversations = []) := by
  unfold playerProblems
  rcases db.player with _ | id <;> simp [actorProblems]

theorem hasEntry_iff {ref : EntryRef} :
    db.hasEntry ref = true ↔
      ∃ c ∈ db.conversations, c.id = ref.conversation ∧ ∃ e ∈ c.entries, e.id = ref.entry := by
  simp [hasEntry]

/-- An entry that there is stands in a conversation that there is. -/
theorem hasConversation_of_hasEntry {ref : EntryRef} (h : db.hasEntry ref = true) :
    db.hasConversation ref.conversation = true := by
  obtain ⟨d, hd, hboth⟩ := List.any_eq_true.1 h
  exact List.any_eq_true.2 ⟨d, hd, (Bool.and_eq_true_iff.1 hboth).1⟩

/-- What is wrong with a link that starts where it should. -/
theorem linkProblems_of_origin (ho : l.origin = ⟨c.id, e.id⟩) :
    db.linkProblems c e l =
      if db.hasEntry l.destination then [] else [db.missingDestination c e l] := by
  unfold linkProblems missingDestination
  rw [problemUnless, if_pos (by simpa using ho), List.nil_append]
  by_cases hentry : db.hasEntry l.destination = true
  · rw [if_pos (hasConversation_of_hasEntry hentry), if_pos hentry, hentry]
    rfl
  · by_cases hconv : db.hasConversation l.destination.conversation = true <;>
      simp [hentry, hconv, problemUnless]

theorem linkProblems_eq_nil_iff :
    db.linkProblems c e l = [] ↔ l.origin = ⟨c.id, e.id⟩ ∧ db.hasEntry l.destination = true := by
  by_cases ho : l.origin = ⟨c.id, e.id⟩
  · rw [linkProblems_of_origin ho]
    by_cases hentry : db.hasEntry l.destination = true <;> simp [ho, hentry]
  · simp [linkProblems, ho]

/-- There is nothing wrong with an entry exactly if it is orderly and its links lead to entries. -/
theorem entryProblems_eq_nil_iff :
    db.entryProblems c e = [] ↔
      e.Orderly db c ∧ ∀ l ∈ e.links, db.hasEntry l.destination = true := by
  simp only [entryProblems, List.append_eq_nil_iff, List.flatMap_eq_nil_iff,
    problemUnless_eq_nil_iff, linkProblems_eq_nil_iff, actorProblems, decide_eq_true_eq,
    Option.mem_toList]
  constructor
  · intro ⟨⟨⟨hconv, hactor⟩, hconversant⟩, hlinks⟩
    exact ⟨⟨hconv, hactor, hconversant, fun l hl => (hlinks l hl).1⟩, fun l hl => (hlinks l hl).2⟩
  · intro ⟨h, hlinks⟩
    exact ⟨⟨⟨h.conversation, h.actor⟩, h.conversant⟩, fun l hl => ⟨h.origin l hl, hlinks l hl⟩⟩

/-! ## All rules -/

/-- The problems of an orderly entry are those of its links. -/
theorem entryProblems_eq (h : e.Orderly db c) :
    db.entryProblems c e = e.links.flatMap (db.linkProblems c e) := by
  have hconv :
      problemUnless (e.conversation = c.id) (.foreignEntry ⟨e.id, c.title⟩ e.conversation) =
        [] := by
    rw [problemUnless_eq_nil_iff, decide_eq_true_eq]
    exact h.conversation
  have hactor : db.actorProblems e.actor (.entryActor ⟨e.id, c.title⟩) = [] :=
    problemUnless_eq_nil_iff.2 h.actor
  have hconversant : e.conversant.toList.flatMap
      (db.actorProblems · (.entryConversant ⟨e.id, c.title⟩)) = [] := by
    rw [List.flatMap_eq_nil_iff]
    intro id hid
    exact problemUnless_eq_nil_iff.2 (h.conversant id (Option.mem_toList.1 hid))
  simp only [entryProblems, hconv, hactor, hconversant, List.nil_append]

/-- The problems of an orderly database are those of its links that lead to no entry. -/
theorem Orderly.exists_of_mem_problems (h : db.Orderly) {p : Problem} (hp : p ∈ db.problems) :
    ∃ c ∈ db.conversations, ∃ e ∈ c.entries, ∃ l ∈ e.links,
      db.hasEntry l.destination = false ∧ p = db.missingDestination c e l := by
  have hnone : (repeats (db.actors.map (·.id))).map (fun id => Problem.duplicateId (.actor id)) ++
      (repeats (db.conversations.map (·.id))).map (fun id => .duplicateId (.conversation id)) ++
      titleProblemsAfter [] db.conversations ++ db.playerProblems ++
      db.conversations.flatMap entryIdProblems = [] := by
    simp only [List.append_eq_nil_iff, List.map_eq_nil_iff, List.flatMap_eq_nil_iff,
      repeats_eq_nil_iff, titleProblemsAfter_eq_nil_iff, playerProblems_eq_nil_iff,
      entryIdProblems_eq_nil_iff]
    exact ⟨⟨⟨⟨h.actorIds, h.conversationIds⟩, fun c hc => (h.conversations c hc).title, h.titles,
      fun c _ => List.not_mem_nil⟩, h.player, h.noPlayer⟩, fun c hc =>
        ⟨(h.conversations c hc).entryIds, (h.conversations c hc).start⟩⟩
  rw [problems, hnone, List.nil_append] at hp
  obtain ⟨c, hc, hp⟩ := List.mem_flatMap.1 hp
  have hconversant : c.conversant.toList.flatMap (db.actorProblems · (.conversantOf c.title)) =
      [] := by
    rw [List.flatMap_eq_nil_iff]
    intro id hid
    exact problemUnless_eq_nil_iff.2
      ((h.conversations c hc).conversant id (Option.mem_toList.1 hid))
  rw [conversationProblems, hconversant, List.nil_append] at hp
  obtain ⟨e, he, hp⟩ := List.mem_flatMap.1 hp
  have horderly := (h.conversations c hc).entries e he
  rw [entryProblems_eq horderly] at hp
  obtain ⟨l, hl, hp⟩ := List.mem_flatMap.1 hp
  rw [linkProblems_of_origin (horderly.origin l hl)] at hp
  split at hp
  · cases hp
  · next hentry =>
    exact ⟨c, hc, e, he, l, hl, by simpa using hentry, List.mem_singleton.1 hp⟩

/-- A database has no problems exactly if it is orderly and all its links lead to entries. -/
theorem problems_eq_nil_iff :
    db.problems = [] ↔
      db.Orderly ∧ ∀ c ∈ db.conversations, ∀ e ∈ c.entries, ∀ l ∈ e.links,
        db.hasEntry l.destination = true := by
  constructor
  · intro h
    simp only [problems, conversationProblems, List.append_eq_nil_iff, List.map_eq_nil_iff,
      List.flatMap_eq_nil_iff, repeats_eq_nil_iff, titleProblemsAfter_eq_nil_iff,
      playerProblems_eq_nil_iff, entryIdProblems_eq_nil_iff, entryProblems_eq_nil_iff,
      actorProblems, problemUnless_eq_nil_iff, Option.mem_toList] at h
    obtain ⟨⟨⟨⟨⟨hactors, hids⟩, hblank, htitles, -⟩, hplayer, hnone⟩, hentryIds⟩, hnames⟩ := h
    refine ⟨⟨hactors, hids, htitles, hplayer, hnone, fun c hc => ?_⟩, fun c hc e he =>
      ((hnames c hc).2 e he).2⟩
    exact ⟨hblank c hc, (hentryIds c hc).1, (hentryIds c hc).2, (hnames c hc).1, fun e he =>
      ((hnames c hc).2 e he).1⟩
  · intro ⟨h, hlinks⟩
    rw [List.eq_nil_iff_forall_not_mem]
    intro p hp
    obtain ⟨c, hc, e, he, l, hl, hnone, -⟩ := h.exists_of_mem_problems hp
    rw [hlinks c hc e he l hl] at hnone
    cases hnone

end Database

end Dialogue
