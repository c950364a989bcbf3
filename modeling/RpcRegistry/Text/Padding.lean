/-!
Padding: a text is filled up to a least width on one side, and a text that is wider already stays
as it is.
-/

namespace RpcRegistry.Text

def padLeft (fill : Char) (width : Nat) (text : List Char) : List Char :=
  List.replicate (width - text.length) fill ++ text

def padRight (fill : Char) (width : Nat) (text : List Char) : List Char :=
  text ++ List.replicate (width - text.length) fill

end RpcRegistry.Text
