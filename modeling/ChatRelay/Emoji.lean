import ChatRelay.Text.Blank
import ChatRelay.Text.Cluster

/-!
# Emoji lists

A line of emojis is cut into grapheme clusters, so that flags, skin tones, keycaps and joined
emojis stay whole; the clusters that are nothing but blanks are dropped.
-/

namespace ChatRelay.Emoji

/-- Whether a cluster shows anything. -/
def isVisible (cluster : List Char) : Bool := !cluster.all Text.isBlank

/-- The emojis of a text, in order. -/
def split (cs : List Char) : List (List Char) := (Text.Cluster.clusters cs).filter isVisible

/-- The emojis of a text, each as a text. -/
def splitText (s : String) : List String := (split s.toList).map String.ofList

end ChatRelay.Emoji
