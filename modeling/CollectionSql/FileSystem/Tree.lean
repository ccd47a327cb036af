import CollectionSql.Dict
import CollectionSql.FileSystem.Content

/-!
# Trees of files

Files and directories form a tree. A name leads from the root to a node, and what is stored under a
name is a directory or a file. Result: `node?_put`, what storing a node does to a lookup.
-/

namespace CollectionSql

/-- An absolute name: the names on the way from the root. -/
abbrev FileName := List String

/-- What is stored under a name. -/
inductive FileNode where
  | directory
  | file (content : FileContent)
deriving DecidableEq

/-- A file, or a directory with all that is below it. -/
inductive FileTree where
  | file (content : FileContent)
  | directory (entries : List (String × FileTree))

namespace FileTree

/-- What is at the root of a tree. -/
def node : FileTree → FileNode
  | .file content => .file content
  | .directory _ => .directory

/-- The tree with a node and nothing below it. -/
def ofNode : FileNode → FileTree
  | .directory => .directory []
  | .file content => .file content

/-- The tree below a name. -/
def get? : FileTree → FileName → Option FileTree
  | tree, [] => some tree
  | .file _, _ :: _ => none
  | .directory entries, name :: names =>
    match Dict.get? entries name with
    | some child => child.get? names
    | none => none

/-- The node with a name. -/
def node? (tree : FileTree) (name : FileName) : Option FileNode := (tree.get? name).map node

/-- Stores a tree under a name whose directory exists. -/
def put (new : FileTree) : FileTree → FileName → FileTree
  | _, [] => new
  | .file content, _ :: _ => .file content
  | .directory entries, name :: names =>
    match Dict.get? entries name with
    | some child => .directory (Dict.insert entries name (put new child names))
    | none => .directory (if names = [] then Dict.insert entries name new else entries)

theorem node_ofNode (node : FileNode) : (ofNode node).node = node := by
  cases node <;> rfl

theorem get?_ofNode_cons (node : FileNode) (name : String) (names : FileName) :
    (ofNode node).get? (name :: names) = none := by
  cases node <;> simp [ofNode, get?, Dict.get?]

theorem node?_insert_of_ne (entries : List (String × FileTree)) (name : String) (child : FileTree)
    (o : String) (os : FileName) (h : o ≠ name) :
    (FileTree.directory (Dict.insert entries name child)).node? (o :: os) =
      (FileTree.directory entries).node? (o :: os) := by
  have h' : name ≠ o := fun e => h e.symm
  simp [node?, get?, Dict.get?_insert, h']

theorem put_directory_singleton (new : FileTree) (entries : List (String × FileTree))
    (name : String) :
    put new (.directory entries) [name] = .directory (Dict.insert entries name new) := by
  cases h : Dict.get? entries name <;> simp [put, h]

/-- Storing a node in a directory changes what its own name leads to, unless a directory is there,
and nothing else. -/
theorem node?_put (node : FileNode) (tree : FileTree) (name other : FileName) (hne : name ≠ [])
    (hdir : tree.node? name.dropLast = some .directory)
    (hnew : tree.node? name ≠ some .directory) :
    (put (ofNode node) tree name).node? other =
      if other = name then some node else tree.node? other := by
  induction name generalizing tree other with
  | nil => exact absurd rfl hne
  | cons name names ih =>
    cases names with
    | nil =>
      cases tree with
      | file content => simp [node?, get?, FileTree.node] at hdir
      | directory entries =>
        rw [put_directory_singleton]
        cases other with
        | nil => simp [node?, get?, FileTree.node]
        | cons o os =>
          by_cases ho : o = name
          · subst ho
            cases os with
            | nil => simp [node?, get?, Dict.get?_insert, node_ofNode]
            | cons p ps =>
              have hnone : (FileTree.directory entries).get? (o :: p :: ps) = none := by
                cases hc : Dict.get? entries o with
                | none => simp [get?, hc]
                | some child =>
                  cases child with
                  | file content => simp [get?, hc]
                  | directory es => simp [node?, get?, hc, FileTree.node] at hnew
              simp [node?, hnone]
              simp [get?, Dict.get?_insert, get?_ofNode_cons]
          · rw [node?_insert_of_ne _ _ _ _ _ ho]
            simp [ho]
    | cons next rest =>
      cases tree with
      | file content => simp [node?, get?] at hdir
      | directory entries =>
        cases hc : Dict.get? entries name with
        | none => simp [node?, get?, hc] at hdir
        | some child =>
          have hdir' : child.node? (next :: rest).dropLast = some .directory := by
            simpa [node?, get?, hc] using hdir
          have hnew' : child.node? (next :: rest) ≠ some .directory := by
            simpa [node?, get?, hc] using hnew
          have hput : put (ofNode node) (.directory entries) (name :: next :: rest) =
              .directory (Dict.insert entries name (put (ofNode node) child (next :: rest))) := by
            rw [put, hc]
          rw [hput]
          cases other with
          | nil => simp [node?, get?, FileTree.node]
          | cons o os =>
            by_cases ho : o = name
            · subst ho
              have := ih child os (by simp) hdir' hnew'
              simpa [node?, get?, Dict.get?_insert, hc] using this
            · rw [node?_insert_of_ne _ _ _ _ _ ho]
              simp [ho]

end FileTree

end CollectionSql
