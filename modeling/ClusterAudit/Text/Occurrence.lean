/-!
# Parts of texts

A text is a part of another one when it begins at some place of it.  The empty text is a part of
every text.
-/

namespace ClusterAudit.Text

def occursIn (part : List Char) : List Char → Bool
  | [] => part.isEmpty
  | c :: rest => part.isPrefixOf (c :: rest) || occursIn part rest

end ClusterAudit.Text
