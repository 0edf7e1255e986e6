import DocAccess.Accessors.Basic

/-!
# The items of a blog

Comments, posts and users, how they are read from documents, and the containers they lie in.
-/

namespace DocAccess.Blog

open DocAccess.Accessors DocAccess.Container DocAccess.Document DocAccess.Partition DocAccess.Store

/-- A comment on a post. -/
structure Comment where
  id : String
  body : String
  post : String
  author : String
  deriving DecidableEq, Repr

/-- A post of a user. -/
structure Post where
  id : String
  title : String
  body : String
  published : Bool
  user : String
  deriving DecidableEq, Repr

/-- A registered user. -/
structure User where
  id : String
  name : String
  email : String
  deriving DecidableEq, Repr

/-! ### Shapes -/

/-- A reference by identifier. -/
def referenceShape (name : String) : Shape := .record name [("id", .text, none)]

/-- An identifier, empty unless given. -/
def idField : String × Shape × Option Value := ("id", .text, some (.string ""))

/-- The shape of comments. -/
def commentShape : Shape :=
  .record "Comment" [idField, ("body", .text, none), ("post", referenceShape "PostRef", none),
    ("author", referenceShape "UserRef", none)]

/-- The shape of posts. -/
def postShape : Shape :=
  .record "Post" [idField, ("title", .text, none), ("body", .text, none), ("published", .flag, none),
    ("user", referenceShape "UserRef", none)]

/-- The shape of users. -/
def userShape : Shape :=
  .record "User" [idField, ("name", .text, none), ("email", .text, none)]

/-! ### Reading and writing -/

/-- The text at a path of a document that has its shape. -/
def textAt (path : List String) (value : Value) : String :=
  ((value.follow? path).bind Value.text?).getD ""

/-- A reference as a document. -/
def reference (id : String) : Value := .ofFields [("id", .string id)]

/-- Comments as documents. -/
def commentEntity : Entity Comment where
  decode value := do
    let v ← commentShape.read? value
    return ⟨textAt ["id"] v, textAt ["body"] v, textAt ["post", "id"] v, textAt ["author", "id"] v⟩
  encode c := .ofFields [("id", .string c.id), ("body", .string c.body),
    ("post", reference c.post), ("author", reference c.author)]

/-- Posts as documents. -/
def postEntity : Entity Post where
  decode value := do
    let v ← postShape.read? value
    let published := match v.get? "published" with
      | some (.bool flag) => flag
      | _ => false
    return ⟨textAt ["id"] v, textAt ["title"] v, textAt ["body"] v, published,
      textAt ["user", "id"] v⟩
  encode p := .ofFields [("id", .string p.id), ("title", .string p.title),
    ("body", .string p.body), ("published", .bool p.published), ("user", reference p.user)]

/-- Users as documents. -/
def userEntity : Entity User where
  decode value := do
    let v ← userShape.read? value
    return ⟨textAt ["id"] v, textAt ["name"] v, textAt ["email"] v⟩
  encode u := .ofFields [("id", .string u.id), ("name", .string u.name), ("email", .string u.email)]

/-! ### Containers and accessors -/

/-- The containers of a blog. -/
def containers : List Definition := [⟨"comment", "/post/id"⟩, ⟨"post", "/user/id"⟩, ⟨"user", "/id"⟩]

/-- Access to comments. -/
def comments {σ : Type} (d : Driver σ) : Accessor σ Comment :=
  ⟨⟨d, "comment"⟩, ⟨["post", "id"]⟩, commentEntity⟩

/-- Access to posts. -/
def posts {σ : Type} (d : Driver σ) : Accessor σ Post :=
  ⟨⟨d, "post"⟩, ⟨["user", "id"]⟩, postEntity⟩

/-- Access to users. -/
def users {σ : Type} (d : Driver σ) : Accessor σ User := ⟨⟨d, "user"⟩, ⟨["id"]⟩, userEntity⟩

end DocAccess.Blog
