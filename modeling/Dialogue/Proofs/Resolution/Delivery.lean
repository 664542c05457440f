import Mathlib.Data.List.Induction
import Dialogue.Proofs.Resolution.Writing

/-!
# A queue that is resolved in parts

Ids may repeat, and then a look-up means the first match, place by place: the first conversation of
an id, and in it the first entry of an id. Writing links one after another hands each of those
entries the links that start from it, in order, and touches nothing else (`Database.deliver`,
`foldl_writeLink_eq_deliver`). No id and no title changes on the way, so a link that waits comes to
the same as before (`PendingLink.verdict_deliver`), and a queue can be resolved in as many parts as
one likes (`writeLinks_resolve_append`). What a single link comes to is said by look-ups alone
(`PendingLink.ComesTo`).
-/

namespace Dialogue

/-! ## The first element of each key -/

section firsts

variable {α κ : Type} [DecidableEq κ] {key : α → κ} {f g : α → α}

/-- The list with the first element of each key changed. -/
def mapFirsts (key : α → κ) (f : α → α) (l : List α) : List α :=
  l.mapIdx fun i a => if i = l.findIdx (key · = key a) then f a else a

/-- What a change keeps of every element, it keeps of the whole list. -/
theorem map_mapFirsts {β : Type} {h : α → β} (hf : ∀ a, h (f a) = h a) (l : List α) :
    (mapFirsts key f l).map h = l.map h := by
  refine List.ext_getElem (by simp [mapFirsts]) fun i hi _ => ?_
  simp only [mapFirsts, List.getElem_map, List.getElem_mapIdx]
  split
  · exact hf _
  · rfl

/-- Changes that agree on the elements of a list are one change of it. -/
theorem mapFirsts_congr {l : List α} (h : ∀ a ∈ l, f a = g a) :
    mapFirsts key f l = mapFirsts key g l := by
  refine List.ext_getElem (by simp [mapFirsts]) fun i hi _ => ?_
  simp only [mapFirsts, List.getElem_mapIdx]
  rw [h _ (List.getElem_mem _)]

/-- A change that changes nothing. -/
theorem mapFirsts_eq_self {l : List α} (h : ∀ a ∈ l, f a = a) : mapFirsts key f l = l := by
  rw [mapFirsts_congr h]
  refine List.ext_getElem (by simp [mapFirsts]) fun i hi _ => ?_
  simp [mapFirsts]

/-- A change of the first match, place by place. -/
theorem updateFirst_eq_mapIdx (p : α → Bool) (f : α → α) (l : List α) :
    updateFirst p f l = l.mapIdx fun i a => if i = l.findIdx p then f a else a := by
  induction l with
  | nil => rfl
  | cons a l ih =>
    rw [updateFirst, List.mapIdx_cons, List.findIdx_cons]
    by_cases ha : p a = true
    · have hrest : (l.mapIdx fun _ b => b) = l := List.ext_getElem (by simp) (by simp)
      simp [ha, hrest]
    · simp [ha, ih]

/-- The first element of a key stays where it is. -/
theorem findIdx_mapFirsts (hf : ∀ a, key (f a) = key a) (k : κ) (l : List α) :
    (mapFirsts key f l).findIdx (key · = k) = l.findIdx (key · = k) := by
  have hkeys : ∀ l' : List α, l'.findIdx (key · = k) = (l'.map key).findIdx (· = k) := by
    intro l'
    rw [List.findIdx_map]
    rfl
  rw [hkeys, hkeys, map_mapFirsts hf]

/-- One more change, of the first element of one key. -/
theorem updateFirst_mapFirsts (hf : ∀ a, key (f a) = key a) (k : κ) (l : List α) :
    updateFirst (key · = k) g (mapFirsts key f l) =
      mapFirsts key (fun a => if key a = k then g (f a) else f a) l := by
  rw [updateFirst_eq_mapIdx, findIdx_mapFirsts hf]
  refine List.ext_getElem (by simp [mapFirsts]) fun i hi _ => ?_
  have hi : i < l.length := by simpa [mapFirsts] using hi
  simp only [mapFirsts, List.getElem_mapIdx]
  by_cases hk : key l[i] = k
  · simp only [hk, if_true]
    split <;> rfl
  · have hne : i ≠ l.findIdx (key · = k) := by
      rintro rfl
      exact hk (of_decide_eq_true (List.findIdx_getElem (w := hi)))
    simp only [hk, hne, if_false]

/-- A look-up by a key finds the changed element. -/
theorem find?_mapFirsts (hf : ∀ a, key (f a) = key a) (k : κ) (l : List α) :
    (mapFirsts key f l).find? (key · = k) = (l.find? (key · = k)).map f := by
  have hplace : ∀ a, l.find? (key · = k) = some a → key a = k := by
    intro a ha
    simpa using List.find?_some ha
  rw [List.find?_eq_getElem?_findIdx, List.find?_eq_getElem?_findIdx, findIdx_mapFirsts hf,
    mapFirsts, List.getElem?_mapIdx]
  rw [List.find?_eq_getElem?_findIdx] at hplace
  rcases ha : l[l.findIdx (key · = k)]? with _ | a
  · rfl
  · simp [hplace a ha]

end firsts

/-! ## Links handed to the entries that look-ups find -/

/-- An entry of this conversation with those of the links that start from it. -/
def Entry.deliver (conversation : ConversationId) (links : List Link) (e : Entry) : Entry :=
  { e with links := e.links ++ links.filter (·.origin = ⟨conversation, e.id⟩) }

/-- The conversation with those of the links that start from it, each in the first entry of its
id. -/
def Conversation.deliver (links : List Link) (c : Conversation) : Conversation :=
  { c with entries := mapFirsts Entry.id (·.deliver c.id links) c.entries }

/-- The database with the links, each in the first entry of its id in the first conversation of its
id. -/
def Database.deliver (db : Database) (links : List Link) : Database :=
  { db with conversations := mapFirsts Conversation.id (·.deliver links) db.conversations }

namespace Entry

variable {e : Entry} {conversation : ConversationId} {links : List Link}

theorem id_deliver : (e.deliver conversation links).id = e.id := rfl

/-- One more link that starts from the entry. -/
theorem deliver_append_of_origin {l : Link} (h : l.origin = ⟨conversation, e.id⟩) :
    e.deliver conversation (links ++ [l]) =
      { e.deliver conversation links with
        links := (e.deliver conversation links).links ++ [l] } := by
  unfold deliver
  rw [List.filter_append, List.filter_cons_of_pos (by simpa using h), List.filter_nil,
    List.append_assoc]

/-- One more link that starts elsewhere. -/
theorem deliver_append_of_ne {l : Link} (h : l.origin ≠ ⟨conversation, e.id⟩) :
    e.deliver conversation (links ++ [l]) = e.deliver conversation links := by
  unfold deliver
  rw [List.filter_append, List.filter_cons_of_neg (by simpa using h), List.filter_nil,
    List.append_nil]

end Entry

namespace Conversation

variable (c : Conversation) (links : List Link)

@[simp] theorem id_deliver : (c.deliver links).id = c.id := rfl

/-- The ids and the titles of the entries stay. -/
theorem names_deliver :
    (c.deliver links).entries.map (fun e => (e.id, e.title)) =
      c.entries.map fun e => (e.id, e.title) := by
  have hname : ∀ e : Entry,
      ((e.deliver c.id links).id, (e.deliver c.id links).title) = (e.id, e.title) := fun _ => rfl
  rw [deliver]
  exact map_mapFirsts hname c.entries

/-- Nothing is handed to anyone without links. -/
theorem deliver_nil : c.deliver [] = c := by
  rw [deliver, mapFirsts_eq_self]
  intro e _
  simp [Entry.deliver]

/-- The first entry of an id gets the links that start from it. -/
theorem entryById?_deliver (id : EntryId) :
    (c.deliver links).entryById? id = (c.entryById? id).map (·.deliver c.id links) := by
  rw [deliver]
  exact find?_mapFirsts (fun e => Entry.id_deliver) id c.entries

variable {c links}

/-- One more link that starts from the conversation. -/
theorem updateEntry_deliver {l : Link} (hl : l.origin.conversation = c.id) :
    ((c.deliver links).updateEntry l.origin.entry fun e => { e with links := e.links ++ [l] }) =
      c.deliver (links ++ [l]) := by
  rw [updateEntry, deliver, deliver]
  simp only
  rw [updateFirst_mapFirsts fun e => Entry.id_deliver]
  congr 1
  refine mapFirsts_congr fun e _ => ?_
  split
  · next he => exact (Entry.deliver_append_of_origin (by rw [he, ← hl])).symm
  · next he => exact (Entry.deliver_append_of_ne fun ho => he (by rw [ho])).symm

/-- One more link that starts elsewhere. -/
theorem deliver_append_of_ne {l : Link} (hl : l.origin.conversation ≠ c.id) :
    c.deliver (links ++ [l]) = c.deliver links := by
  rw [deliver, deliver]
  congr 1
  exact mapFirsts_congr fun e _ => Entry.deliver_append_of_ne fun ho => hl (by rw [ho])

end Conversation

namespace Database

variable (db : Database) (links : List Link)

/-- One more link. -/
theorem writeLink_deliver (l : Link) :
    (db.deliver links).writeLink l = db.deliver (links ++ [l]) := by
  rw [writeLink, updateEntry, deliver, deliver]
  simp only
  rw [updateFirst_mapFirsts fun c => Conversation.id_deliver c links]
  congr 1
  refine mapFirsts_congr fun c _ => ?_
  split
  · next hid => exact Conversation.updateEntry_deliver hid.symm
  · next hid => exact (Conversation.deliver_append_of_ne fun ho => hid ho.symm).symm

/-- Writing links one after another hands each to the entry that its origin finds. -/
theorem foldl_writeLink_eq_deliver : links.foldl writeLink db = db.deliver links := by
  induction links using List.reverseRecOn with
  | nil =>
    rw [deliver, mapFirsts_eq_self fun c _ => c.deliver_nil]
    rfl
  | append_singleton links l ih =>
    rw [List.foldl_append, ih, List.foldl_cons, List.foldl_nil, writeLink_deliver]

/-- The first conversation of an id is the one that gets links. -/
theorem conversationById?_deliver (id : ConversationId) :
    (db.deliver links).conversationById? id =
      (db.conversationById? id).map (·.deliver links) := by
  rw [deliver]
  exact find?_mapFirsts (fun c => Conversation.id_deliver c links) id db.conversations

/-- An address finds the entry that it found, with the links that start from there. -/
theorem entryAt?_deliver (ref : EntryRef) :
    (db.deliver links).entryAt? ref = (db.entryAt? ref).map fun e =>
      { e with links := e.links ++ links.filter (·.origin = ref) } := by
  rw [entryAt?, entryAt?, conversationById?_deliver]
  rcases hc : db.conversationById? ref.conversation with _ | c
  · rfl
  · have hid : c.id = ref.conversation := by simpa using List.find?_some hc
    rw [Option.map_some, Option.bind_some, Option.bind_some, Conversation.entryById?_deliver]
    refine Option.map_congr fun e he => ?_
    have heid : e.id = ref.entry := by simpa using List.find?_some he
    rw [Entry.deliver, hid, heid]

/-- The entries of a title are found by ids and titles alone. -/
theorem entriesTitled_deliver (title : String) :
    (db.deliver links).entriesTitled title = db.entriesTitled title := by
  have hsame : ∀ cs : List Conversation, cs.filterMap (·.refTitled? title) =
      (cs.map (·.refTitled? title)).filterMap id := by
    intro cs
    rw [List.filterMap_map]
    rfl
  have hone : ∀ c : Conversation, (c.deliver links).refTitled? title = c.refTitled? title :=
    fun c => Conversation.refTitled?_congr (c.id_deliver links) (c.names_deliver links) title
  rw [entriesTitled_eq, entriesTitled_eq, hsame, hsame, deliver]
  simp only
  rw [map_mapFirsts hone]

end Database

/-- Links that are written do not change what becomes of a link that waits. -/
theorem PendingLink.verdict_deliver (db : Database) (links : List Link) (p : PendingLink) :
    p.verdict (db.deliver links) = p.verdict db := by
  unfold verdict
  rw [db.conversationById?_deliver, db.entriesTitled_deliver]
  rcases db.conversationById? p.origin.conversation with _ | c
  · rfl
  · have hthere : ((c.deliver links).entryById? p.origin.entry).isNone =
        (c.entryById? p.origin.entry).isNone := by
      rw [c.entryById?_deliver, Option.isNone_map]
    have htitled := Conversation.entryTitled?_congr (c.names_deliver links) p.title
    simp only [Option.map_some, hthere]
    split
    · rfl
    · rcases hown : c.entryTitled? p.title with _ | e
      · rw [hown, Option.map_none, Option.map_eq_none_iff] at htitled
        rw [htitled]
        rfl
      · rw [hown, Option.map_some, Option.map_eq_some_iff] at htitled
        obtain ⟨e', he', hid⟩ := htitled
        rw [he']
        simp only [hid, Conversation.id_deliver]

/-- Nor what resolving a queue gives. -/
theorem resolve_deliver (db : Database) (links : List Link) (pending : List PendingLink) :
    resolve (db.deliver links) pending = resolve db pending := by
  unfold resolve PendingLink.link? PendingLink.issue?
  simp only [PendingLink.verdict_deliver]

end Dialogue
