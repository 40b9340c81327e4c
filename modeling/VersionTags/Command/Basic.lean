import VersionTags.Tag
/-!
# Commands

What the command line can ask for: writing a configuration file, or a request to a store.  An invocation is a command
with the choices that hold for every command.
-/
namespace VersionTags

/-- A request to a store. -/
inductive Request where
  | add (v : Version) (tag author : String)
  | copy (source target : Version)
  | tags (v : Version)
  | exists (v : Version) (tag author : String)
  | count (v : Version) (tag : String)
  | counts (v : Version) (start size : Option Int) (sortBy sortOrder : String)
  | taggings (v : Version)
  | taggingsNamed (v : Version) (tag : String) (author : AuthorFilter)
  | tagging (id : TagId)
  | paths (tags : List String)
  | remove (v : Version) (tag : String)
  | removeBy (v : Version) (tag author : String)
  | stats
  deriving DecidableEq, Repr

inductive Command where
  /-- Writes a configuration file, by force in place of one that is there. -/
  | init (force : Bool)
  | request (r : Request)
  deriving DecidableEq, Repr

/-- The form of answers. -/
inductive Format where
  | text
  | json
  deriving DecidableEq, Repr

structure Invocation where
  /-- Details are logged too. -/
  verbose : Bool
  config : Option String
  database : Option String
  tenant : Option Tenant
  format : Format
  command : Command
  deriving DecidableEq, Repr

end VersionTags
