import Newswire.Charset.Decode
import Newswire.Contact

/-!
Messages to the user, and the events that listeners hear of.
-/

namespace Newswire

structure Message where
  content : String
  contentType : String
  encoding : String
  subject : Option String
deriving DecidableEq

namespace Message

def plainType : String := "text/plain"

def htmlType : String := "text/html"

def usualEncoding : String := "utf-8"

def html (content : String) : Message := ⟨content, htmlType, usualEncoding, none⟩

def plain (content : String) : Message := ⟨content, plainType, usualEncoding, none⟩

def supports (contentType : Option String) : Bool :=
  contentType == some plainType || contentType == some htmlType

/-- A feed takes no messages while it is offline. -/
def keepsForLater : Bool := false

end Message

/-- What a message is to say: a text, or bytes that stand for one. -/
inductive Content where
  | text (text : String)
  | bytes (bytes : List UInt8)

/-- The text, as it reads in an encoding if bytes stand for it. -/
def Content.read (encoding : String) : Content → Except Charset.Error String
  | .text own => .ok own
  | .bytes own => Charset.decode encoding own

/-- A message that is to be created. -/
structure Draft where
  content : Content
  contentType : String := Message.htmlType
  encoding : String := Message.usualEncoding
  subject : Option String := none

def Draft.message (draft : Draft) : Except Charset.Error Message :=
  (draft.content.read draft.encoding).map fun text =>
    ⟨text, draft.contentType, draft.encoding, draft.subject⟩

namespace Draft

theorem message_text (text : String) : Draft.message { content := .text text } = .ok (.html text) :=
  rfl

theorem message_eq_ok_iff {draft : Draft} {message : Message} :
    draft.message = .ok message ↔ draft.content.read draft.encoding = .ok message.content ∧
      message.contentType = draft.contentType ∧ message.encoding = draft.encoding ∧
        message.subject = draft.subject := by
  unfold Draft.message
  obtain ⟨content, contentType, encoding, subject⟩ := message
  cases draft.content.read draft.encoding with
  | error why => simp only [Except.map, reduceCtorEq, false_and]
  | ok text => simp only [Except.map, Except.ok.injEq, Message.mk.injEq, eq_comm]

end Draft

/-- What listeners hear of. The contact is given as it was when the event happened. -/
inductive Event where
  | received (message : Message) (contact : Contact)
  | delivered (message : Message) (contact : Contact)
  | failed (message : Message) (contact : Contact) (reason : String)
  | changed (contact : Contact) (property : String) (old new : Value)
  | other

def Event.offlineReason : String := "offline_messages_not_supported"

def Event.nameProperty : String := "DisplayName"

inductive Topic where
  | messages | properties
deriving DecidableEq

/-- Does an audience of the topic hear of the event? -/
def Topic.covers : Topic → Event → Bool
  | .messages, .received .. | .messages, .delivered .. | .messages, .failed .. => true
  | .properties, .changed .. => true
  | _, _ => false

end Newswire
