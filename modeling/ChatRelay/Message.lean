import ChatRelay.Timestamp

/-!
# Messages

A message of the chat platform as the relay sees it. Attachments are known by their addresses.
-/

namespace ChatRelay

/-- A message of a channel. -/
structure Message where
  id : String
  author : String
  authorId : String
  content : String
  createdAt : Timestamp
  attachments : List String
  deriving DecidableEq, Repr, Inhabited

end ChatRelay
