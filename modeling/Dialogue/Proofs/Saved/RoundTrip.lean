import Mathlib.Data.List.Nodup
import Dialogue.Store
import Dialogue.Proofs.Files.Writing
import Dialogue.Proofs.Saved.Values

/-!
# A saved database is loaded as it was

`Database.Storable` says that the ids of a database are numbers that a file can hold; nothing else
is asked of it, so ids and titles may repeat and links may lead nowhere. The text of such a database
is read back as the value that it was written from, and that value as the database
(`ofText?_saved`), so `load` gives the database from any file with that text in it (`load_saved`).
-/

namespace Dialogue

open Saved Text

/-! ## What can be stored -/

/-- The ids of the link are in range. -/
structure Link.Storable (l : Link) : Prop where
  originConversation : l.origin.conversation ≤ maxId
  originEntry : l.origin.entry ≤ maxId
  destinationConversation : l.destination.conversation ≤ maxId
  destinationEntry : l.destination.entry ≤ maxId

/-- The ids of the entry and in it are in range. -/
structure Entry.Storable (e : Entry) : Prop where
  id : e.id ≤ maxId
  conversation : e.conversation ≤ maxId
  actor : e.actor ≤ maxId
  conversant : ∀ i ∈ e.conversant, i ≤ maxId
  links : ∀ l ∈ e.links, l.Storable

/-- The ids of the conversation and in it are in range. -/
structure Conversation.Storable (c : Conversation) : Prop where
  id : c.id ≤ maxId
  conversant : ∀ i ∈ c.conversant, i ≤ maxId
  entries : ∀ e ∈ c.entries, e.Storable

/-- All ids in the database are in range. -/
structure Database.Storable (db : Database) : Prop where
  player : ∀ i ∈ db.player, i ≤ maxId
  actors : ∀ a ∈ db.actors, a.id ≤ maxId
  conversations : ∀ c ∈ db.conversations, c.Storable

instance : DecidablePred Link.Storable := fun l =>
  decidable_of_iff
    (l.origin.conversation ≤ maxId ∧ l.origin.entry ≤ maxId ∧ l.destination.conversation ≤ maxId ∧
      l.destination.entry ≤ maxId)
    ⟨fun ⟨h₁, h₂, h₃, h₄⟩ => ⟨h₁, h₂, h₃, h₄⟩, fun ⟨h₁, h₂, h₃, h₄⟩ => ⟨h₁, h₂, h₃, h₄⟩⟩

instance : DecidablePred Entry.Storable := fun e =>
  decidable_of_iff
    (e.id ≤ maxId ∧ e.conversation ≤ maxId ∧ e.actor ≤ maxId ∧ (∀ i ∈ e.conversant, i ≤ maxId) ∧
      ∀ l ∈ e.links, l.Storable)
    ⟨fun ⟨h₁, h₂, h₃, h₄, h₅⟩ => ⟨h₁, h₂, h₃, h₄, h₅⟩,
      fun ⟨h₁, h₂, h₃, h₄, h₅⟩ => ⟨h₁, h₂, h₃, h₄, h₅⟩⟩

instance : DecidablePred Conversation.Storable := fun c =>
  decidable_of_iff
    (c.id ≤ maxId ∧ (∀ i ∈ c.conversant, i ≤ maxId) ∧ ∀ e ∈ c.entries, e.Storable)
    ⟨fun ⟨h₁, h₂, h₃⟩ => ⟨h₁, h₂, h₃⟩, fun ⟨h₁, h₂, h₃⟩ => ⟨h₁, h₂, h₃⟩⟩

instance : DecidablePred Database.Storable := fun db =>
  decidable_of_iff
    ((∀ i ∈ db.player, i ≤ maxId) ∧ (∀ a ∈ db.actors, a.id ≤ maxId) ∧
      ∀ c ∈ db.conversations, c.Storable)
    ⟨fun ⟨h₁, h₂, h₃⟩ => ⟨h₁, h₂, h₃⟩, fun ⟨h₁, h₂, h₃⟩ => ⟨h₁, h₂, h₃⟩⟩

/-! ## Fields -/

namespace Saved

/-- Fields with names of their own are all there is to a record. -/
theorem Value.fields?_of_nodup {fields : List (String × Value)} (h : (fields.map Prod.fst).Nodup)
    (name : String) (known : List String) :
    Value.fields? .standard name known (.record none fields) = some fields := by
  have honce : ∀ k : String, (fields.filter (·.1 = k)).length ≤ 1 := by
    intro k
    have hcount : (fields.map Prod.fst).count k = (fields.filter (·.1 = k)).length := by
      rw [List.count, List.countP_map, List.countP_eq_length_filter]
      rfl
    rw [← hcount]
    exact List.nodup_iff_count_le_one.1 h k
  simp [Value.fields?, Rules.standard, honce]

theorem Value.id?_ofId {id : Nat} (h : id ≤ maxId) : (Value.ofId id).id? = some id := by
  simp [Value.ofId, Value.id?, h]

theorem Value.optionalId?_ofOptionalId {id : Option Nat} (h : ∀ i ∈ id, i ≤ maxId) :
    (Value.ofOptionalId id).optionalId? .standard = some id := by
  cases id with
  | none => rfl
  | some id =>
    show (Value.ofId id).id?.map some = _
    rw [id?_ofId (h id rfl), Option.map_some]

/-- A list is read item by item. -/
theorem Value.list?_map {α : Type} {encode : α → Value} {decode : Value → Option α} {as : List α}
    (h : ∀ a ∈ as, decode (encode a) = some a) :
    (Value.list (as.map encode)).list? decode = some as := by
  show (as.map encode).mapM decode = some as
  induction as with
  | nil => rfl
  | cons a as ih =>
    have htail := ih fun b hb => h b (List.mem_cons_of_mem a hb)
    simp [List.mapM_cons, h a List.mem_cons_self, htail]

end Saved

/-! ## The parts of a database -/

theorem Link.reads_toSaved {l : Link} (h : l.Storable) (n : Nat) : l.toSaved.Reads (n + 2) := by
  refine Value.reads_record (List.cons_ne_nil _ _) ?_ ?_
  · show ∀ name ∈ ["origin_conversation", "origin_entry", "destination_conversation",
      "destination_entry"], IsName name
    decide
  · simp only [List.map_cons, List.map_nil, List.forall_mem_cons]
    exact ⟨Value.reads_ofId n h.originConversation, Value.reads_ofId n h.originEntry,
      Value.reads_ofId n h.destinationConversation, Value.reads_ofId n h.destinationEntry,
      fun _ hv => nomatch hv⟩

theorem Link.ofSaved?_toSaved {l : Link} (h : l.Storable) :
    Link.ofSaved? .standard l.toSaved = some l := by
  rw [Link.ofSaved?, Link.toSaved, Value.fields?_of_nodup (by simp)]
  simp [required, List.lookup_cons, Value.id?_ofId h.originConversation,
    Value.id?_ofId h.originEntry, Value.id?_ofId h.destinationConversation,
    Value.id?_ofId h.destinationEntry]

theorem Entry.reads_toSaved {e : Entry} (h : e.Storable) (n : Nat) : e.toSaved.Reads (n + 6) := by
  refine Value.reads_record (n := n + 4) (List.cons_ne_nil _ _) ?_ ?_
  · show ∀ name ∈ ["id", "conversation_id", "title", "actor_id", "conversant_id", "text", "script",
      "condition", "sequence", "is_group", "outgoing_links"], IsName name
    decide
  · have hlinks : Value.Reads (n + 4) (.list (e.links.map Link.toSaved)) :=
      Value.reads_map fun l hl => Link.reads_toSaved (h.links l hl) n
    simp only [List.map_cons, List.map_nil, List.forall_mem_cons]
    exact ⟨Value.reads_ofId _ h.id, Value.reads_ofId _ h.conversation, Value.reads_text _ _,
      Value.reads_ofId _ h.actor, Value.reads_ofOptionalId _ h.conversant, Value.reads_text _ _,
      Value.reads_text _ _, Value.reads_text _ _, Value.reads_text _ _, Value.reads_flag _ _,
      hlinks, fun _ hv => nomatch hv⟩

theorem Entry.ofSaved?_toSaved {e : Entry} (h : e.Storable) :
    Entry.ofSaved? .standard e.toSaved = some e := by
  have hlinks : (Value.list (e.links.map Link.toSaved)).list? (Link.ofSaved? .standard) =
      some e.links := Value.list?_map fun l hl => Link.ofSaved?_toSaved (h.links l hl)
  rw [Entry.ofSaved?, Entry.toSaved, Value.fields?_of_nodup (by simp)]
  simp [required, withDefault, List.lookup_cons, Value.id?_ofId h.id, Value.id?_ofId h.conversation,
    Value.id?_ofId h.actor, Value.optionalId?_ofOptionalId h.conversant, Value.text?, Value.flag?,
    hlinks]

theorem Conversation.reads_toSaved {c : Conversation} (h : c.Storable) (n : Nat) :
    c.toSaved.Reads (n + 10) := by
  refine Value.reads_record (n := n + 8) (List.cons_ne_nil _ _) ?_ ?_
  · show ∀ name ∈ ["id", "title", "conversant_id", "entries"], IsName name
    decide
  · have hentries : Value.Reads (n + 8) (.list (c.entries.map Entry.toSaved)) :=
      Value.reads_map fun e he => Entry.reads_toSaved (h.entries e he) n
    simp only [List.map_cons, List.map_nil, List.forall_mem_cons]
    exact ⟨Value.reads_ofId _ h.id, Value.reads_text _ _, Value.reads_ofOptionalId _ h.conversant,
      hentries, fun _ hv => nomatch hv⟩

theorem Conversation.ofSaved?_toSaved {c : Conversation} (h : c.Storable) :
    Conversation.ofSaved? .standard c.toSaved = some c := by
  have hentries : (Value.list (c.entries.map Entry.toSaved)).list? (Entry.ofSaved? .standard) =
      some c.entries := Value.list?_map fun e he => Entry.ofSaved?_toSaved (h.entries e he)
  rw [Conversation.ofSaved?, Conversation.toSaved, Value.fields?_of_nodup (by simp)]
  simp [required, withDefault, List.lookup_cons, Value.id?_ofId h.id,
    Value.optionalId?_ofOptionalId h.conversant, Value.text?, hentries]

theorem Actor.reads_toSaved {a : Actor} (h : a.id ≤ maxId) (n : Nat) : a.toSaved.Reads (n + 2) := by
  refine Value.reads_record (List.cons_ne_nil _ _) ?_ ?_
  · show ∀ name ∈ ["id", "name", "is_player"], IsName name
    decide
  · simp only [List.map_cons, List.map_nil, List.forall_mem_cons]
    exact ⟨Value.reads_ofId _ h, Value.reads_text _ _, Value.reads_flag _ _, fun _ hv => nomatch hv⟩

theorem Actor.ofSaved?_toSaved {a : Actor} (h : a.id ≤ maxId) :
    Actor.ofSaved? .standard a.toSaved = some a := by
  rw [Actor.ofSaved?, Actor.toSaved, Value.fields?_of_nodup (by simp)]
  simp [required, withDefault, List.lookup_cons, Value.id?_ofId h, Value.text?, Value.flag?]

/-! ## The database -/

namespace Database

variable {db : Database}

theorem reads_toSaved (h : db.Storable) (n : Nat) : db.toSaved.Reads (n + 14) := by
  refine Value.reads_record (n := n + 12) (List.cons_ne_nil _ _) ?_ ?_
  · show ∀ name ∈ ["player_id", "actors", "conversations"], IsName name
    decide
  · have hactors : Value.Reads (n + 12) (.list (db.actors.map Actor.toSaved)) :=
      Value.reads_map fun a ha => Actor.reads_toSaved (h.actors a ha) (n + 8)
    have hconversations :
        Value.Reads (n + 12) (.list (db.conversations.map Conversation.toSaved)) :=
      Value.reads_map fun c hc => Conversation.reads_toSaved (h.conversations c hc) n
    simp only [List.map_cons, List.map_nil, List.forall_mem_cons]
    exact ⟨Value.reads_ofOptionalId _ h.player, hactors, hconversations, fun _ hv => nomatch hv⟩

theorem ofSaved?_toSaved (h : db.Storable) : ofSaved? .standard db.toSaved = some db := by
  have hactors : (Value.list (db.actors.map Actor.toSaved)).list? (Actor.ofSaved? .standard) =
      some db.actors := Value.list?_map fun a ha => Actor.ofSaved?_toSaved (h.actors a ha)
  have hconversations : (Value.list (db.conversations.map Conversation.toSaved)).list?
      (Conversation.ofSaved? .standard) = some db.conversations :=
    Value.list?_map fun c hc => Conversation.ofSaved?_toSaved (h.conversations c hc)
  rw [ofSaved?, toSaved, Value.fields?_of_nodup (by simp)]
  simp [withDefault, List.lookup_cons, Value.optionalId?_ofOptionalId h.player, hactors,
    hconversations]

/-- The text of a database holds the value that it was written from. -/
theorem readDocument?_saved (h : db.Storable) :
    readDocument? db.saved.toList = some ⟨.standard, db.toSaved⟩ := by
  have hvalue := reads_toSaved h 114
  have hstarts := (hvalue.starts 0).skipGap []
  rw [List.append_nil] at hstarts
  have hread := hvalue.reads 0 ((db.toSaved.render 0).length + 1) [] (Nat.lt_succ_self _)
    fun c hc => nomatch hc
  rw [List.append_nil] at hread
  have hhead : (db.toSaved.render 0).head? ≠ some '#' := by
    rw [toSaved, render_record]
    simp
  have hplain : readAttributes ((db.toSaved.render 0).length + 1) .standard (db.toSaved.render 0) =
      some (.standard, db.toSaved.render 0) := by
    rw [readAttributes, if_neg hhead]
  have hlimit : nestingLimit = 114 + 14 := rfl
  have hend : skipGap [] = some [] := rfl
  rw [saved, String.toList_ofList, readDocument?]
  simp only [hstarts, hplain, hlimit, hread, hend, Option.bind_eq_bind, Option.bind_some]

/-- The text of a database is read back. -/
theorem ofText?_saved (h : db.Storable) : ofText? db.saved = some db := by
  rw [ofText?, readDocument?_saved h]
  exact ofSaved?_toSaved h

/-- A file that was saved holds the text of the database. -/
theorem readText_save {files files' : FileTree} (hfiles : files.Sound) {path : Path}
    (hsave : db.save files path = (.ok (), files')) : files'.readText path = .ok db.saved := by
  have hmade := hfiles.makeDirectories path.directory
  unfold save at hsave
  split at hsave
  · cases hsave
  · next made hdone =>
    rw [hdone] at hmade
    split at hsave
    · cases hsave
    · next hwrite =>
      cases hsave
      exact FileTree.readText_write hmade hwrite

/-- A database is loaded as it was from every file that holds its text, and so from the file that it
was saved in. -/
theorem load_saved (h : db.Storable) (path : Path) :
    (∀ files : FileTree, files.readText path = .ok db.saved → load files path = .ok db) ∧
      ∀ files files' : FileTree, files.Sound → db.save files path = (.ok (), files') →
        load files' path = .ok db := by
  have hload : ∀ files : FileTree, files.readText path = .ok db.saved →
      load files path = .ok db := by
    intro files hfile
    rw [load, hfile]
    simp only [ofText?_saved h]
  refine ⟨hload, ?_⟩
  intro files files' hfiles hsave
  exact hload files' (readText_save hfiles hsave)

/-- A database in disorder: ids and titles repeat, links lead nowhere, and texts hold quotes,
controls and characters that join the one before them. -/
def disordered : Database where
  player := some 7
  actors := [⟨0, "\"Mira\"\t\\", true⟩, ⟨0, "", false⟩]
  conversations :=
    [⟨1, "Hall", some 4294967295,
        [⟨0, 9, "START", 3, none, "'\x00' 0\r\n", "e\u0301", "", "\ufeff", true,
          [⟨⟨9, 0⟩, ⟨1, 4⟩⟩, ⟨⟨2, 0⟩, ⟨2, 0⟩⟩]⟩]⟩,
      ⟨1, "Hall", none, []⟩]

theorem load_saved_disordered :
    disordered.Storable ∧ (disordered.save ⟨[], []⟩ ⟨"odd.ron"⟩).1 = .ok () ∧
      load (disordered.save ⟨[], []⟩ ⟨"odd.ron"⟩).2 ⟨"odd.ron"⟩ = .ok disordered := by
  have hstorable : disordered.Storable := by decide
  have hempty : FileTree.Sound ⟨[], []⟩ := by
    refine ⟨rfl, ?_⟩
    intro l n h
    cases l with
    | nil => rfl
    | cons name l => cases h
  have hsave : (disordered.save ⟨[], []⟩ ⟨"odd.ron"⟩).1 = .ok () := rfl
  exact ⟨hstorable, hsave, (load_saved hstorable _).2 _ _ hempty (Prod.ext hsave rfl)⟩

end Database

end Dialogue
