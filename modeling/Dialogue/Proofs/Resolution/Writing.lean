import Mathlib.Data.List.Induction
import Dialogue.Resolution
import Dialogue.Proofs.Database.Keys

/-!
# Where waiting links lead, and writing them

A waiting link of an entry that is there leads where its title leads, seen from the conversation of
the entry (`Database.target?`): `PendingLink.link?_eq` and `PendingLink.issue?_eq` are all that is
asked of resolving. Writing links one after another is the same as handing every entry, at once,
those of the links that start from it (`writeLinks_eq`). That changes no id and no title, so a title
leads to the same place before and after (`target?_receive`).
-/

namespace Dialogue

/-! ## Writing links at once -/

/-- The conversation with those of the links in it that start from its entries. -/
def Conversation.receive (links : List Link) (c : Conversation) : Conversation :=
  { c with
    entries := c.entries.map fun e =>
      { e with links := e.links ++ links.filter (·.origin = ⟨c.id, e.id⟩) } }

/-- The database with the links in it that start from its entries. -/
def Database.receive (db : Database) (links : List Link) : Database :=
  { db with conversations := db.conversations.map (·.receive links) }

namespace Conversation

variable {c : Conversation} {links : List Link}

@[simp] theorem id_receive : (c.receive links).id = c.id := rfl

@[simp] theorem receive_receive (links' : List Link) :
    (c.receive links).receive links' = c.receive (links ++ links') := by
  unfold receive
  simp only [List.map_map, Function.comp_def, List.filter_append, List.append_assoc]

/-- Links that start elsewhere are not for this conversation. -/
theorem receive_eq_self (h : ∀ l ∈ links, l.origin.conversation ≠ c.id) : c.receive links = c := by
  have hnone : ∀ e : Entry, links.filter (·.origin = ⟨c.id, e.id⟩) = [] := by
    intro e
    rw [List.filter_eq_nil_iff]
    intro l hl
    have hne : l.origin ≠ ⟨c.id, e.id⟩ := fun ho => h l hl (by rw [ho])
    simpa using hne
  unfold receive
  simp only [hnone, List.append_nil, List.map_id']

/-- Only links that start here are for this conversation. -/
theorem receive_filter :
    c.receive (links.filter (·.origin.conversation = c.id)) = c.receive links := by
  have hsame : ∀ e : Entry, (links.filter (·.origin.conversation = c.id)).filter
      (·.origin = ⟨c.id, e.id⟩) = links.filter (·.origin = ⟨c.id, e.id⟩) := by
    intro e
    rw [List.filter_filter]
    refine List.filter_congr fun l _ => ?_
    by_cases ho : l.origin = ⟨c.id, e.id⟩ <;> simp [ho]
  unfold receive
  simp only [hsame]

/-- With distinct ids, the first entry of an id is the one that a link starts from. -/
theorem updateEntry_eq_receive (h : (c.entries.map (·.id)).Nodup) {l : Link}
    (hl : l.origin.conversation = c.id) :
    (c.updateEntry l.origin.entry fun e => { e with links := e.links ++ [l] }) =
      c.receive [l] := by
  have hentry : ∀ e ∈ c.entries,
      (if e.id = l.origin.entry then { e with links := e.links ++ [l] } else e) =
        { e with links := e.links ++ [l].filter (·.origin = ⟨c.id, e.id⟩) } := by
    intro e _
    by_cases he : e.id = l.origin.entry
    · have ho : l.origin = ⟨c.id, e.id⟩ := by rw [he, ← hl]
      rw [if_pos he, List.filter_cons_of_pos (by simpa using ho), List.filter_nil]
    · have ho : l.origin ≠ ⟨c.id, e.id⟩ := fun ho => he (by rw [ho])
      rw [if_neg he, List.filter_cons_of_neg (by simpa using ho), List.filter_nil,
        List.append_nil]
  rw [updateEntry, updateFirst_eq_map h, List.map_congr_left hentry, receive]

/-- The ids and the titles of the entries stay. -/
theorem names_receive (c : Conversation) (links : List Link) :
    (c.receive links).entries.map (fun e => (e.id, e.title)) =
      c.entries.map fun e => (e.id, e.title) := by
  simp [receive, Function.comp_def]

/-- A title is found by the ids and the titles of the entries alone. -/
theorem entryTitled?_congr {c c' : Conversation}
    (h : c.entries.map (fun e => (e.id, e.title)) = c'.entries.map fun e => (e.id, e.title))
    (title : String) : (c.entryTitled? title).map (·.id) = (c'.entryTitled? title).map (·.id) := by
  have hfind : ∀ d : Conversation, (d.entries.find? (·.title = title)).map (·.id) =
      ((d.entries.map fun e => (e.id, e.title)).find? (·.2 = title)).map Prod.fst := by
    intro d
    rw [List.find?_map, Option.map_map]
    rfl
  unfold entryTitled?
  split
  · rfl
  · rw [hfind, hfind, h]

/-- The first entry of a title is an entry and has the title. -/
theorem mem_of_entryTitled? {c : Conversation} {title : String} {e : Entry}
    (h : c.entryTitled? title = some e) : e ∈ c.entries ∧ e.title = title := by
  unfold entryTitled? at h
  split at h
  · cases h
  · exact ⟨List.mem_of_find?_eq_some h, by simpa using List.find?_some h⟩

/-- The address of the first entry of a title. -/
def refTitled? (c : Conversation) (title : String) : Option EntryRef :=
  (c.entryTitled? title).map fun e => ⟨c.id, e.id⟩

/-- It is found by the id of the conversation and the ids and the titles of the entries alone. -/
theorem refTitled?_congr {c c' : Conversation} (hid : c.id = c'.id)
    (h : c.entries.map (fun e => (e.id, e.title)) = c'.entries.map fun e => (e.id, e.title))
    (title : String) : c.refTitled? title = c'.refTitled? title := by
  have hmap := congrArg (Option.map (EntryRef.mk c.id)) (entryTitled?_congr h title)
  rw [Option.map_map, Option.map_map] at hmap
  unfold refTitled?
  rw [← hid]
  exact hmap

/-- Links that are written do not change it. -/
theorem refTitled?_receive (c : Conversation) (links : List Link) (title : String) :
    (c.receive links).refTitled? title = c.refTitled? title :=
  refTitled?_congr id_receive (c.names_receive links) title

end Conversation

namespace Database

variable {db : Database}

/-- Writing a link hands it to the entry that it starts from. -/
theorem writeLink_eq (h : (db.conversations.map (·.id)).Nodup) {l : Link}
    (hl : ∀ c ∈ db.conversations, c.id = l.origin.conversation → (c.entries.map (·.id)).Nodup) :
    db.writeLink l = db.receive [l] := by
  have hconv : ∀ c ∈ db.conversations,
      (if c.id = l.origin.conversation then
        c.updateEntry l.origin.entry fun e => { e with links := e.links ++ [l] } else c) =
        c.receive [l] := by
    intro c hc
    by_cases hid : c.id = l.origin.conversation
    · rw [if_pos hid]
      exact Conversation.updateEntry_eq_receive (hl c hc hid) hid.symm
    · rw [if_neg hid, Conversation.receive_eq_self]
      intro l' hl'
      rw [List.mem_singleton.1 hl']
      exact fun ho => hid ho.symm
  rw [writeLink, Database.updateEntry, updateFirst_eq_map h, List.map_congr_left hconv, receive]

/-- Writing links one after another hands each to the entry that it starts from. -/
theorem foldl_writeLink {links : List Link} (h : (db.conversations.map (·.id)).Nodup)
    (hl : ∀ l ∈ links, ∀ c ∈ db.conversations, c.id = l.origin.conversation →
      (c.entries.map (·.id)).Nodup) :
    links.foldl writeLink db = db.receive links := by
  induction links using List.reverseRecOn with
  | nil => simp [receive, Conversation.receive]
  | append_singleton links l ih =>
      have hbefore := ih fun l' hl' => hl l' (List.mem_append_left _ hl')
      have hids : (db.receive links).conversations.map (·.id) = db.conversations.map (·.id) := by
        simp [receive, Function.comp_def]
      have hlast : ∀ c ∈ (db.receive links).conversations, c.id = l.origin.conversation →
          (c.entries.map (·.id)).Nodup := by
        intro c hc hid
        obtain ⟨d, hd, rfl⟩ := List.mem_map.1 hc
        have hnodup := hl l (List.mem_append_right _ (List.mem_singleton.2 rfl)) d hd hid
        simpa [Conversation.receive, Function.comp_def] using hnodup
      rw [List.foldl_append, hbefore, List.foldl_cons, List.foldl_nil,
        writeLink_eq (hids ▸ h) hlast]
      simp [receive, Function.comp_def]

/-! ## Where a title leads -/

/-- Where a title leads from this conversation: to its own first entry of the title, or else to the
first one of the first conversation that has one. -/
def target? (db : Database) (c : Conversation) (title : String) : Option EntryRef :=
  match c.entryTitled? title with
  | some e => some ⟨c.id, e.id⟩
  | none => (db.entriesTitled title).head?

/-- What is reported about a title that leads somewhere, or nowhere, from this conversation: that no
entry has it, or that entries of several conversations do and none of this one. -/
def issueFor? (db : Database) (c : Conversation) (title : String) : Option ResolveIssue :=
  if (c.entryTitled? title).isSome then none
  else
    match (db.entriesTitled title).length with
    | 0 => some (.missing c.title title)
    | 1 => none
    | n => some (.ambiguous title n)

/-- The entries of a title are collected from the conversations, one by one. -/
theorem entriesTitled_eq (db : Database) (title : String) :
    db.entriesTitled title = db.conversations.filterMap (·.refTitled? title) := rfl

/-- The entries of a title are found by the ids and the titles of all entries alone. -/
theorem entriesTitled_receive (links : List Link) (title : String) :
    (db.receive links).entriesTitled title = db.entriesTitled title := by
  rw [entriesTitled_eq, entriesTitled_eq, receive, List.filterMap_map]
  exact List.filterMap_congr fun c _ => c.refTitled?_receive links title

/-- Links that are written do not change where a title leads. -/
theorem target?_receive (links : List Link) (c : Conversation) (title : String) :
    (db.receive links).target? (c.receive links) title = db.target? c title := by
  have h := Conversation.entryTitled?_congr (c.names_receive links) title
  unfold target?
  rw [entriesTitled_receive]
  rcases hc : c.entryTitled? title with _ | e
  · rw [hc, Option.map_none, Option.map_eq_none_iff] at h
    rw [h]
  · rw [hc, Option.map_some, Option.map_eq_some_iff] at h
    obtain ⟨e', he', hid⟩ := h
    simp only [he', hid, Conversation.id_receive]

/-- A title leads to an entry that has it. -/
theorem exists_of_target?_eq_some {c : Conversation} (hc : c ∈ db.conversations) {title : String}
    {ref : EntryRef} (h : db.target? c title = some ref) :
    ∃ d ∈ db.conversations, ∃ e ∈ d.entries, ref = ⟨d.id, e.id⟩ ∧ e.title = title := by
  unfold target? at h
  split at h
  · next e he =>
    obtain ⟨hmem, ht⟩ := Conversation.mem_of_entryTitled? he
    exact ⟨c, hc, e, hmem, (Option.some.inj h).symm, ht⟩
  · obtain ⟨d, hd, hfind⟩ := List.mem_filterMap.1 (List.mem_of_head? h)
    obtain ⟨e, he, href⟩ := Option.map_eq_some_iff.1 hfind
    obtain ⟨hmem, ht⟩ := Conversation.mem_of_entryTitled? he
    exact ⟨d, hd, e, hmem, href.symm, ht⟩

/-- A title that is not empty leads nowhere exactly if no entry has it. -/
theorem target?_eq_none_iff {c : Conversation} (hc : c ∈ db.conversations) {title : String}
    (ht : title ≠ "") :
    db.target? c title = none ↔ ∀ d ∈ db.conversations, ∀ e ∈ d.entries, e.title ≠ title := by
  constructor
  · intro h d hd e he hetitle
    have hfound : (d.entryTitled? title).isSome := by
      rw [Conversation.entryTitled?, if_neg ht, List.find?_isSome]
      exact ⟨e, he, by simpa using hetitle⟩
    obtain ⟨e', he'⟩ := Option.isSome_iff_exists.1 hfound
    have hmem : (⟨d.id, e'.id⟩ : EntryRef) ∈ db.entriesTitled title :=
      List.mem_filterMap.2 ⟨d, hd, by rw [he', Option.map_some]⟩
    unfold target? at h
    split at h
    · cases h
    · rw [List.head?_eq_none_iff.1 h] at hmem
      cases hmem
  · intro h
    rcases htarget : db.target? c title with _ | ref
    · rfl
    · obtain ⟨d, hd, e, he, -, hetitle⟩ := exists_of_target?_eq_some hc htarget
      exact absurd hetitle (h d hd e he)

end Database

/-! ## What becomes of a waiting link -/

namespace PendingLink

variable {db : Database} {p : PendingLink} {c : Conversation}

/-- A waiting link of an entry that is there leads where its title leads. -/
theorem link?_eq (hc : db.conversationById? p.origin.conversation = some c)
    (he : (c.entryById? p.origin.entry).isSome) :
    p.link? db = (db.target? c p.title).map (⟨p.origin, ·⟩) := by
  have hsome : (c.entryById? p.origin.entry).isNone = false := by
    rw [← Option.not_isSome, he]
    rfl
  simp only [link?, verdict, hc, hsome, Database.target?]
  rcases c.entryTitled? p.title with _ | e
  · rcases db.entriesTitled p.title with _ | ⟨first, others⟩ <;> rfl
  · rfl

/-- What is reported about a waiting link of an entry that is there is about its title. -/
theorem issue?_eq (hc : db.conversationById? p.origin.conversation = some c)
    (he : (c.entryById? p.origin.entry).isSome) :
    p.issue? db = db.issueFor? c p.title := by
  have hsome : (c.entryById? p.origin.entry).isNone = false := by
    rw [← Option.not_isSome, he]
    rfl
  simp only [issue?, verdict, hc, hsome, Database.issueFor?]
  rcases c.entryTitled? p.title with _ | e
  · rcases db.entriesTitled p.title with _ | ⟨first, _ | ⟨second, others⟩⟩ <;> simp
  · rfl

/-- A link is only written from an entry that is there. -/
theorem isSome_entryAt?_of_link? {l : Link} (h : p.link? db = some l) :
    (db.entryAt? l.origin).isSome := by
  rcases hc : db.conversationById? p.origin.conversation with _ | c
  · simp [link?, verdict, hc] at h
  · rcases he : c.entryById? p.origin.entry with _ | e
    · simp [link?, verdict, hc, he] at h
    · rw [link?_eq hc (by rw [he]; rfl)] at h
      obtain ⟨ref, -, rfl⟩ := Option.map_eq_some_iff.1 h
      rw [Database.entryAt?, hc, Option.bind_some, he]
      rfl

end PendingLink

/-- Every link that is resolved is counted as written. -/
theorem Database.fst_writeLinks_resolve (db : Database) (pending : List PendingLink) :
    (db.writeLinks (resolve db pending).links).1 = (resolve db pending).links.length := by
  have hall : (resolve db pending).links.filter (fun l => (db.entryAt? l.origin).isSome) =
      (resolve db pending).links := by
    rw [List.filter_eq_self]
    intro l hl
    obtain ⟨p, -, hp⟩ := List.mem_filterMap.1 hl
    exact p.isSome_entryAt?_of_link? hp
  rw [writeLinks, hall]

/-- Every link that is resolved is written. -/
theorem Database.writeLinks_resolve {db : Database} (pending : List PendingLink)
    (h : (db.conversations.map (·.id)).Nodup)
    (hl : ∀ l ∈ (resolve db pending).links, ∀ c ∈ db.conversations,
      c.id = l.origin.conversation → (c.entries.map (·.id)).Nodup) :
    db.writeLinks (resolve db pending).links =
      ((resolve db pending).links.length, db.receive (resolve db pending).links) :=
  Prod.ext (db.fst_writeLinks_resolve pending) (foldl_writeLink h hl)

end Dialogue
