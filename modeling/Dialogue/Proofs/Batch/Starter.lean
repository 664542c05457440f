import Dialogue.Proofs.Batch.Player
import Dialogue.Proofs.Script.Headers

/-!
# Importing a new script

A script of header lines alone asks for a conversation with nothing but `START` in it
(`Batch.importSource_of_pieces_eq_nil`). It leaves no link waiting, so what a batch of it has done
once it is imported stands when the batch is closed (`Batch.finish_importSource_of_pieces_eq_nil`).
The new script is such a script, as soon as it has a title and somebody to speak to.
-/

namespace Dialogue

open Script Text

/-! ## Scripts of header lines alone -/

section header

variable {N : Naming} {o : Outline} (hpieces : o.pieces = [])
include hpieces

/-- A script of header lines alone asks for `START` and nothing else. -/
theorem Naming.entries_of_pieces_eq_nil (sequence : String) :
    (N.conversation sequence o).entries =
      [{ startEntry (N.idOf o.title) N.player sequence with
        conversant := o.conversant.map N.actorOf }] := by
  simp only [Naming.conversation, Naming.start, hpieces]
  rfl

/-- It leaves no link waiting. -/
theorem Naming.queue_of_pieces_eq_nil : N.queue o = [] := by
  simp only [Naming.queue, Outline.waits, hpieces]
  rfl

end header

/-- Nothing but `START` is in the conversation. It is the player's, and it and the conversation are
for the first actor of this name. -/
structure Conversation.OnlyStarts (c : Conversation) (db : Database) (sequence name : String) :
    Prop where
  entries : ∃ player, db.player? = some player ∧
    c.entries = [{ startEntry c.id player sequence with conversant := c.conversant }]
  conversant : ∃ a, db.actorNamed? name = some a ∧ c.conversant = some a.id

namespace Batch

/-- A batch in which nothing waits is closed as it is. -/
theorem finish_of_pending_eq_nil {b : Batch} (h : b.pending = []) :
    b.finish = (⟨b.imported, b.skipped, 0, b.diagnostics⟩, b.db) := by
  simp [finish, h, resolve, Database.writeLinks]

section header

variable {s : Source} {o : Outline} (ho : s.outline? = some o) (hpieces : o.pieces = [])
include ho hpieces

/-- A script of header lines alone gives a conversation with nothing but `START` in it. -/
theorem importSource_of_pieces_eq_nil (b : Batch) {name : String}
    (hname : o.conversant = some name) :
    ∃ c : Conversation, (b.importSource s).1 = some c.id ∧ c.title = o.title ∧
      (b.importSource s).2.db.conversations =
        b.db.conversations.filter (·.title ≠ c.title) ++ [c] ∧
      c.OnlyStarts (b.importSource s).2.db b.options.startSequence name := by
  obtain ⟨nodes, -, hnodes⟩ := Source.outline?_eq_some_iff.1 ho
  have hmem := (Forest.complete_of_outline? hnodes).conversant name hname
  obtain ⟨N, hid, hplayer, hnames⟩ := b.db.exists_naming b.options.playerName o
  obtain ⟨a, ha, haid⟩ := Option.map_eq_some_iff.1 (hnames name hmem)
  rw [importSource_eq ho hid hplayer hnames]
  refine ⟨N.conversation b.options.startSequence o, rfl, rfl,
    Database.conversations_install _ _ _ _, ?_, a, ha, ?_⟩
  · refine ⟨N.player, ?_, Naming.entries_of_pieces_eq_nil hpieces _⟩
    rw [← hplayer]
    exact Database.player?_install _ _ _ _
  · rw [haid, Naming.conversation, hname]
    rfl

/-- If nothing waits when it is imported, the batch can be closed with nothing to be done. -/
theorem finish_importSource_of_pieces_eq_nil {b : Batch} (hpending : b.pending = []) :
    (b.importSource s).2.finish.2 = (b.importSource s).2.db ∧
      (b.importSource s).2.finish.1.diagnostics = b.diagnostics ++ s.remarks := by
  obtain ⟨N, hid, hplayer, hnames⟩ := b.db.exists_naming b.options.playerName o
  rw [importSource_eq ho hid hplayer hnames]
  have hqueue : (b.accept N s o).pending = [] := by
    rw [accept, hpending, Naming.queue_of_pieces_eq_nil hpieces]
    rfl
  rw [finish_of_pending_eq_nil hqueue]
  simp [accept, hpending]

end header

end Batch

/-! ## Importing the new script -/

section starter

variable {title conversant : String} (htitle : '\n' ∉ title.toList)
  (hconversant : '\n' ∉ conversant.toList)
include htitle hconversant

/-- What a new script asks for, if no value is missing, and that nothing is said about it. -/
theorem outline?_starter {s : Source} (hs : s.text = starter title conversant)
    (ht : isAllBlank title.toList = false) (hc : isAllBlank conversant.toList = false) :
    s.outline? = some ⟨trimmed title, [trimmed conversant], some (trimmed conversant), []⟩ ∧
      s.remarks = [] := by
  have hparse := parse_starter htitle hconversant ht hc
  rw [← hs] at hparse
  have hforest := Source.forest?_eq_some_iff.2 (congrArg Parsed.forest hparse)
  refine ⟨Source.outline?_eq_some_iff.2 ⟨_, hforest, rfl⟩, ?_⟩
  rw [Source.remarks, hparse]
  rfl

/-- A new script is a script, whatever single lines its title and its conversant are: it is read as
its two header lines with nothing to report, exactly if neither is all blank. Importing it then
gives, in any batch and so over any database, a conversation of that title with nothing but `START`
in it, for the first actor of that name; a batch of it alone ends with that database and nothing to
report. -/
theorem parse_starter_iff_and_importSources :
    ((∃ nodes, parse (starter title conversant) = ⟨.ok nodes, []⟩ ∧
        nodes.map Node.kind = [.title (trimmed title), .conversant (trimmed conversant)]) ↔
      isAllBlank title.toList = false ∧ isAllBlank conversant.toList = false) ∧
    ∀ s : Source, s.text = starter title conversant →
      isAllBlank title.toList = false → isAllBlank conversant.toList = false →
        (∀ b : Batch, ∃ c : Conversation, (b.importSource s).1 = some c.id ∧
          c.title = trimmed title ∧
          (b.importSource s).2.db.conversations =
            b.db.conversations.filter (·.title ≠ c.title) ++ [c] ∧
          c.OnlyStarts (b.importSource s).2.db b.options.startSequence (trimmed conversant)) ∧
        ∀ (db : Database) (options : ImportOptions),
          (importSources db [s] options).2 = ((Batch.start db options).importSource s).2.db ∧
            (importSources db [s] options).1.diagnostics = [] := by
  constructor
  · constructor
    · rintro ⟨nodes, hparse, -⟩
      rw [← diagnostics_starter_eq_nil_iff htitle hconversant, hparse]
    · rintro ⟨ht, hc⟩
      exact ⟨_, parse_starter htitle hconversant ht hc, rfl⟩
  · intro s hs ht hc
    obtain ⟨ho, hremarks⟩ := outline?_starter htitle hconversant hs ht hc
    refine ⟨fun b => b.importSource_of_pieces_eq_nil ho rfl rfl, fun db options => ?_⟩
    have hfinish := Batch.finish_importSource_of_pieces_eq_nil (b := .start db options) ho rfl rfl
    rw [hremarks] at hfinish
    exact hfinish

end starter

/-- Two actors of one name, a player who is no actor, and a title that two conversations have. -/
def twinDatabase : Database where
  player := some 9
  actors := [⟨7, "npc: Bob", false⟩, ⟨3, "npc: Bob", true⟩]
  conversations := [.blank 2 "===", .blank 5 "Hall", .blank 2 "==="]

/-- A new script whose title is a separator and whose conversant is a header line, each with blanks
and a carriage return around it. -/
def disguisedScript : Source := ⟨none, starter "\t===\r" " npc: Bob\r"⟩

/-- The first of the two actors is spoken to, in the one conversation that is left of the title. -/
theorem parse_starter_iff_and_importSources_disguisedScript :
    '\n' ∉ "\t===\r".toList ∧ '\n' ∉ " npc: Bob\r".toList ∧
      (∃ nodes, parse disguisedScript.text = ⟨.ok nodes, []⟩ ∧
        nodes.map Node.kind = [.title "===", .conversant "npc: Bob"]) ∧
      ∃ c : Conversation,
        (importSources twinDatabase [disguisedScript] .standard).2.conversations =
          [.blank 5 "Hall", c] ∧
        c.title = "===" ∧ c.entries.length = 1 ∧ c.conversant = some 7 := by
  have htitle : '\n' ∉ "\t===\r".toList := by decide
  have hconversant : '\n' ∉ " npc: Bob\r".toList := by decide
  have ht : isAllBlank "\t===\r".toList = false := by decide
  have hc : isAllBlank " npc: Bob\r".toList = false := by decide
  obtain ⟨hiff, hall⟩ := parse_starter_iff_and_importSources htitle hconversant
  obtain ⟨hbatch, halone⟩ := hall disguisedScript rfl ht hc
  obtain ⟨c, -, hname, hconversations, hstart, a, ha, hspoken⟩ :=
    hbatch (.start twinDatabase .standard)
  obtain ⟨player, -, hentries⟩ := hstart
  have hfirst : ((Batch.start twinDatabase .standard).importSource disguisedScript).2.db.actorNamed?
      (trimmed " npc: Bob\r") = some ⟨7, "npc: Bob", false⟩ := by decide +kernel
  refine ⟨htitle, hconversant, hiff.2 ⟨ht, hc⟩, c, ?_, hname, ?_, ?_⟩
  · rw [(halone twinDatabase .standard).1, hconversations, hname]
    rfl
  · rw [hentries]
    rfl
  · rw [hfirst] at ha
    rw [hspoken, ← Option.some.inj ha]

end Dialogue
