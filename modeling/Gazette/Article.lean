import Gazette.Tree.Node
import Gazette.Document

/-! # Articles: a document with its text -/
namespace Gazette

/-- The text of an article. -/
structure Content where
  kind : String := ""
  children : List Node := []
  deriving DecidableEq

structure Article where
  kind : String := ""
  id : String := ""
  /-- The repository that publishes the article. -/
  repoId : String := ""
  content : Content := {}
  info : Meta := {}
  deriving DecidableEq

/-- An article as it is sent. -/
structure ArticleReply where
  article : Article := {}
  deriving DecidableEq

/-- The root of the given nodes. -/
def Content.ofNodes (children : List Node) : Content := { kind := "root", children }

end Gazette
