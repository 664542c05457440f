import Dialogue.Proofs.Resolution.Delivery

/-!
# What resolving a queue comes to

Whatever the database looks like, each waiting link comes to one of three ends: a link is written,
no entry has the title, or the entry is gone that it starts from (`PendingLink.ComesTo`). A queue
comes to what its links come to, in order. All links are written, and as writing them changes no id and no
title, a queue may be resolved in parts (`resolve_settles`).
-/

namespace Dialogue

/-- How many conversations have an entry of this title. -/
def Database.countTitled (db : Database) (title : String) : Nat :=
  db.conversations.countP fun c => (c.entryTitled? title).isSome

/-- Whether the issue says that no entry has the title. -/
def ResolveIssue.isMissing : ResolveIssue → Bool
  | missing _ _ => true
  | ambiguous _ _ | staleOrigin _ _ => false

/-- Whether the issue says that the entry is gone that a link starts from. -/
def ResolveIssue.isStale : ResolveIssue → Bool
  | staleOrigin _ _ => true
  | missing _ _ | ambiguous _ _ => false

/-- What a waiting link comes to, by look-ups. -/
inductive PendingLink.ComesTo (db : Database) (p : PendingLink) : Resolution → Prop
  /-- The entry is gone that it starts from. -/
  | stale (hgone : db.entryAt? p.origin = none) :
      ComesTo db p ⟨[], [.staleOrigin p.title p.origin]⟩
  /-- Its own conversation has the title. -/
  | own {c : Conversation} {e : Entry}
      (hc : db.conversationById? p.origin.conversation = some c)
      (hthere : (c.entryById? p.origin.entry).isSome) (he : c.entryTitled? p.title = some e) :
      ComesTo db p ⟨[⟨p.origin, ⟨c.id, e.id⟩⟩], []⟩
  /-- Others have the title, and the first one is taken. -/
  | elsewhere {c d : Conversation} {e : Entry} {before after : List Conversation}
      (hc : db.conversationById? p.origin.conversation = some c)
      (hthere : (c.entryById? p.origin.entry).isSome) (hown : c.entryTitled? p.title = none)
      (hsplit : db.conversations = before ++ d :: after)
      (hbefore : ∀ b ∈ before, b.entryTitled? p.title = none)
      (he : d.entryTitled? p.title = some e) :
      ComesTo db p ⟨[⟨p.origin, ⟨d.id, e.id⟩⟩],
        if 2 ≤ db.countTitled p.title then [.ambiguous p.title (db.countTitled p.title)] else []⟩
  /-- Nobody has the title. -/
  | missing {c : Conversation} (hc : db.conversationById? p.origin.conversation = some c)
      (hthere : (c.entryById? p.origin.entry).isSome)
      (hnone : ∀ d ∈ db.conversations, d.entryTitled? p.title = none) :
      ComesTo db p ⟨[], [.missing c.title p.title]⟩

/-! ## One link -/

theorem resolve_singleton (db : Database) (p : PendingLink) :
    resolve db [p] = ⟨(p.link? db).toList, (p.issue? db).toList⟩ := rfl

/-- As many conversations have an entry of a title as there are first entries of it. -/
theorem Database.length_entriesTitled (db : Database) (title : String) :
    (db.entriesTitled title).length = db.countTitled title := by
  unfold entriesTitled countTitled
  rw [List.length_filterMap_eq_countP]
  simp only [Option.isSome_map]

namespace PendingLink

variable {db : Database} {p : PendingLink} {r : Resolution}

/-- A link whose entry is gone is stale. -/
theorem verdict_of_entryAt?_eq_none (h : db.entryAt? p.origin = none) : p.verdict db = .stale := by
  unfold Database.entryAt? at h
  unfold verdict
  rcases hc : db.conversationById? p.origin.conversation with _ | c
  · rfl
  · rw [hc, Option.bind_some] at h
    simp [h]

/-- Resolving a link gives what it comes to. -/
theorem comesTo_resolve (db : Database) (p : PendingLink) : p.ComesTo db (resolve db [p]) := by
  rw [resolve_singleton]
  rcases horigin : db.entryAt? p.origin with _ | origin
  · have hstale := verdict_of_entryAt?_eq_none horigin
    simp only [link?, issue?, hstale]
    exact .stale horigin
  · obtain ⟨c, hc, hentry⟩ := Option.bind_eq_some_iff.1 horigin
    have hthere : (c.entryById? p.origin.entry).isSome := by rw [hentry]; rfl
    rw [link?_eq hc hthere, issue?_eq hc hthere, Database.target?, Database.issueFor?,
      db.length_entriesTitled]
    rcases hown : c.entryTitled? p.title with _ | e
    · have hcount := db.length_entriesTitled p.title
      rcases hall : db.entriesTitled p.title with _ | ⟨ref, others⟩
      · have hnone : ∀ d ∈ db.conversations, d.entryTitled? p.title = none := by
          intro d hd
          have hd := List.filterMap_eq_nil_iff.1 hall d hd
          rwa [Option.map_eq_none_iff] at hd
        rw [hall, List.length_nil] at hcount
        rw [← hcount]
        exact .missing hc hthere hnone
      · obtain ⟨before, d, after, hsplit, hbefore, hd, -⟩ := List.filterMap_eq_cons_iff.1 hall
        obtain ⟨e, he, rfl⟩ := Option.map_eq_some_iff.1 hd
        have hends := ComesTo.elsewhere hc hthere hown hsplit
          (fun b hb => Option.map_eq_none_iff.1 (hbefore b hb)) he
        rw [hall, List.length_cons] at hcount
        rw [← hcount] at hends ⊢
        rcases others with _ | ⟨second, others⟩
        · exact hends
        · rw [if_pos (by simp)] at hends
          exact hends
    · exact .own hc hthere hown

/-- It is one end. -/
theorem ComesTo.length_eq (h : p.ComesTo db r) :
    r.links.length + r.issues.countP (·.isMissing) + r.issues.countP (·.isStale) = 1 := by
  cases h with
  | stale => rfl
  | own => rfl
  | elsewhere => split <;> rfl
  | missing => rfl

end PendingLink

/-! ## A queue -/

section queue

variable (db : Database)

theorem resolve_append (first second : List PendingLink) :
    resolve db (first ++ second) =
      ⟨(resolve db first).links ++ (resolve db second).links,
        (resolve db first).issues ++ (resolve db second).issues⟩ := by
  unfold resolve
  rw [List.filterMap_append, List.filterMap_append]

theorem resolve_cons (p : PendingLink) (pending : List PendingLink) :
    resolve db (p :: pending) =
      ⟨(resolve db [p]).links ++ (resolve db pending).links,
        (resolve db [p]).issues ++ (resolve db pending).issues⟩ :=
  resolve_append db [p] pending

/-- A queue comes to what its links come to. -/
theorem resolve_eq_flatMap (pending : List PendingLink) :
    resolve db pending =
      ⟨pending.flatMap fun p => (resolve db [p]).links,
        pending.flatMap fun p => (resolve db [p]).issues⟩ := by
  induction pending with
  | nil => rfl
  | cons p pending ih => rw [resolve_cons, ih, List.flatMap_cons, List.flatMap_cons]

/-- Every link of a queue comes to one end. -/
theorem length_resolve (pending : List PendingLink) :
    (resolve db pending).links.length + (resolve db pending).issues.countP (·.isMissing) +
      (resolve db pending).issues.countP (·.isStale) = pending.length := by
  induction pending with
  | nil => rfl
  | cons p pending ih =>
    have hone := (PendingLink.comesTo_resolve db p).length_eq
    rw [resolve_cons, List.length_append, List.countP_append, List.countP_append, List.length_cons]
    omega

/-- Writing the links of a queue in two parts, where the second part is resolved after the first one
is written. -/
theorem writeLinks_resolve_append (first second : List PendingLink) :
    let halfway := (db.writeLinks (resolve db first).links).2
    resolve halfway second = resolve db second ∧
      (halfway.writeLinks (resolve halfway second).links).2 =
        (db.writeLinks (resolve db (first ++ second)).links).2 := by
  intro halfway
  have hhalfway : halfway = db.deliver (resolve db first).links :=
    db.foldl_writeLink_eq_deliver _
  have hsame : resolve halfway second = resolve db second := by rw [hhalfway, resolve_deliver]
  refine ⟨hsame, ?_⟩
  rw [hsame, resolve_append]
  exact List.foldl_append.symm

/-- Resolving a queue and writing its links. Each link of the queue comes to one end, and the queue
to all of these, in order. Every link that it gives is written, in the entry that its origin finds,
and nothing else changes. Done in two parts, however it is split, it comes to the same. -/
theorem resolve_settles (pending : List PendingLink) :
    let done := resolve db pending
    let written := db.writeLinks done.links
    (∀ p : PendingLink, p.ComesTo db (resolve db [p])) ∧
      done.links = pending.flatMap (fun p => (resolve db [p]).links) ∧
      done.issues = pending.flatMap (fun p => (resolve db [p]).issues) ∧
      done.links.length + done.issues.countP (·.isMissing) + done.issues.countP (·.isStale) =
        pending.length ∧
      written.1 = done.links.length ∧
      written.2 = db.deliver done.links ∧
      (∀ ref, written.2.entryAt? ref = (db.entryAt? ref).map fun e =>
        { e with links := e.links ++ done.links.filter (·.origin = ref) }) ∧
      ∀ n,
        let first := pending.take n
        let second := pending.drop n
        let halfway := (db.writeLinks (resolve db first).links).2
        done.links = (resolve db first).links ++ (resolve halfway second).links ∧
          done.issues = (resolve db first).issues ++ (resolve halfway second).issues ∧
          (halfway.writeLinks (resolve halfway second).links).2 = written.2 := by
  intro done written
  have hwritten : written.2 = db.deliver done.links := db.foldl_writeLink_eq_deliver done.links
  have hall := resolve_eq_flatMap db pending
  refine ⟨fun p => p.comesTo_resolve db, congrArg Resolution.links hall,
    congrArg Resolution.issues hall, length_resolve db pending,
    db.fst_writeLinks_resolve pending, hwritten, ?_, ?_⟩
  · intro ref
    rw [hwritten, db.entryAt?_deliver]
  · intro n first second halfway
    obtain ⟨hsame, hend⟩ := writeLinks_resolve_append db first second
    have happend := resolve_append db first second
    rw [List.take_append_drop n pending] at happend hend
    refine ⟨?_, ?_, hend⟩
    · rw [hsame]
      exact congrArg Resolution.links happend
    · rw [hsame]
      exact congrArg Resolution.issues happend

end queue

end Dialogue
