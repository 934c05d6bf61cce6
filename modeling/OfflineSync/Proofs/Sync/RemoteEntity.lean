import OfflineSync.Proofs.Entity.Metadata
import OfflineSync.Sync.Push

/-!
# A remote that holds one entity

A remote stores, replaces and removes one entity as it is asked to, unless a request `misses` the
version that it holds (`Held.serve`). What an operation asks for is then done, `Operation.Applied`,
or the remote keeps what it held and answers with a refusal.

Documents are exchanged as the device hands them to the network and is handed them by it.
-/

namespace OfflineSync

/-- An entity as the remote holds it. -/
structure Held where
  document : Document
  version : String

namespace Held

/-- Whether a request asks for another version than the one that the remote holds. -/
def misses (held : Option Held) (ifMatch : Option String) : Bool :=
  ifMatch.isSome && held.map version != ifMatch

/-- The remote stores a body under a version, and answers with what it stored. -/
def keep (status : Nat) (body : Document) (version : String) (entityTag : Option String) :
    Response × Option Held :=
  let document := body.setField EntityMetadata.versionField (.text version)
  (⟨status, entityTag, some document⟩, some ⟨document, version⟩)

/-- What the remote does with a request about the entity. An entity that it stores gets a
version. -/
def serve (version : String) (entityTag : Option String) (held : Option Held) :
    Request → Response × Option Held
  | .create _ body =>
    if held.isSome then (⟨409, none, none⟩, held) else keep 201 body version entityTag
  | .replace _ _ body ifMatch =>
    if misses held ifMatch then (⟨412, none, none⟩, held) else keep 200 body version entityTag
  | .delete _ _ ifMatch =>
    if held.isNone then (⟨404, none, none⟩, held)
    else if misses held ifMatch then (⟨412, none, none⟩, held)
    else (⟨204, entityTag, none⟩, none)
  | .query .. | .nextPage .. => (⟨404, none, none⟩, held)

end Held

/-- Whether an operation is of an entity, and sends a document of that entity unless it
removes it. -/
structure Operation.Sends (sent : Operation) (key : EntityKey) : Prop where
  belongs : sent.isFor key.table key.id
  payload : sent.kind ≠ .delete → ∃ text document, sent.payload = some text ∧
    Document.read text = some document ∧ document.IsEntity key.id

/-- What the remote holds and has answered once it has done what an operation asks. -/
inductive Operation.Applied (sent : Operation) (key : EntityKey) :
    Option Document → Option Held → Prop where
  | removed (deletes : sent.kind = .delete) : Applied sent key none none
  | stored {text version : String} {document : Document} (keeps : sent.kind ≠ .delete)
      (payload : sent.payload = some text) (read : Document.read text = some document)
      (entity : document.IsEntity key.id) :
      Applied sent key (some (document.setField EntityMetadata.versionField (.text version)))
        (some ⟨document.setField EntityMetadata.versionField (.text version), version⟩)

variable {key : EntityKey} {sent : Operation} {held : Option Held}

/-- An operation that sends a document asks for it to be stored, or for a removal. -/
theorem Operation.Sends.request (sends : sent.Sends key) :
    (sent.kind = .delete ∧ sent.request false = .ok (.delete sent.table sent.itemId sent.entityVersion)) ∨
      ∃ text document, sent.payload = some text ∧ Document.read text = some document ∧
        document.IsEntity key.id ∧
        (sent.kind = .replace ∧
            sent.request false = .ok (.replace sent.table sent.itemId document sent.entityVersion) ∨
          sent.kind = .add ∧ sent.request false = .ok (.create sent.table document)) := by
  cases kind : sent.kind with
  | delete => exact .inl ⟨rfl, by simp [Operation.request, kind]⟩
  | add | replace =>
    obtain ⟨text, document, payload, read, entity⟩ := sends.payload (by simp [kind])
    have body : sent.bodyToSend = .ok document := by
      simp [Operation.bodyToSend, Operation.payloadDocument, Operation.readPayload, payload, read]
    refine .inr ⟨text, document, payload, read, entity, ?_⟩
    simp [Operation.request, kind, body, Except.map]

/-- An operation that sends a document, or removes it, has a request (`Sends`). -/
theorem Operation.Sends.exists_request (sends : sent.Sends key) :
    ∃ request, sent.request false = .ok request := by
  rcases sends.request with ⟨-, asks⟩ | ⟨_, _, -, -, -, ⟨-, asks⟩ | ⟨-, asks⟩⟩
  all_goals exact ⟨_, asks⟩

/-- The remote does what it is asked, or refuses it and keeps what it holds. It creates
an entity only where it held none. -/
theorem Operation.Sends.served (sends : sent.Sends key) {request : Request}
    (requests : sent.request false = .ok request) (held : Option Held) (version : String)
    (entityTag : Option String) :
    ((Held.serve version entityTag held request).1.isSuccess = false ∧
        (Held.serve version entityTag held request).2 = held) ∨
      ((Held.serve version entityTag held request).1.isSuccess ∧
        sent.Applied key (Held.serve version entityTag held request).1.body
          (Held.serve version entityTag held request).2 ∧
        (sent.kind = .add → held = none)) := by
  rcases sends.request with ⟨deletes, asks⟩ |
      ⟨text, document, payload, read, entity, ⟨replaces, asks⟩ | ⟨creates, asks⟩⟩
  · cases asks.symm.trans requests
    cases held with
    | none => exact .inl ⟨rfl, rfl⟩
    | some present =>
      by_cases misses : Held.misses (some present) sent.entityVersion
      · exact .inl (by simp [Held.serve, misses, Response.isSuccess])
      · refine .inr ?_
        simp only [Held.serve, Option.isNone_some, Bool.false_eq_true, if_false, misses]
        exact ⟨rfl, .removed deletes, fun creates => by cases creates.symm.trans deletes⟩
  · cases asks.symm.trans requests
    by_cases misses : Held.misses held sent.entityVersion
    · exact .inl (by simp [Held.serve, misses, Response.isSuccess])
    · refine .inr ?_
      simp only [Held.serve, misses, Bool.false_eq_true, if_false]
      exact ⟨rfl, .stored (by simp [replaces]) payload read entity,
        fun creates => by cases creates.symm.trans replaces⟩
  · cases asks.symm.trans requests
    cases held with
    | some present => exact .inl ⟨rfl, rfl⟩
    | none => exact .inr ⟨rfl, .stored (by simp [creates]) payload read entity, fun _ => rfl⟩

/-- What the remote answers with is an object, if it answers with a document. -/
theorem Operation.Applied.filter_body {body : Option Document} (applied : sent.Applied key body held) :
    body.filter Document.isObject = body := by
  cases applied with
  | removed deletes => rfl
  | stored keeps payload read entity =>
    rw [Option.filter_some, if_pos]
    rw [Document.isObject_setField]
    exact entity.isObject

/-- Without a policy, an answer is concluded as it is: `firstVerdict` is `ofAnswer`. -/
theorem firstVerdict_none (answer : Except SyncError Response) :
    firstVerdict none sent answer = .conclude (.ofAnswer answer) := by
  cases answer <;> rfl

/-- A refusal is concluded as a failure. -/
theorem Conclusion.ofAnswer_refusal {response : Response} (fails : response.isSuccess = false) :
    Conclusion.ofAnswer (.ok response) = .failed response.failure := by
  simp [Conclusion.ofAnswer, fails]

/-- A success is concluded as one. -/
theorem Conclusion.ofAnswer_success {response : Response} (succeeds : response.isSuccess) :
    Conclusion.ofAnswer (.ok response) =
      .accepted response.status (response.body.filter Document.isObject) response.version := by
  simp [Conclusion.ofAnswer, succeeds]

end OfflineSync
