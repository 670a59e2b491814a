/-
The descriptors under a prefix: from the cache, or listed page by page.

The types that are new on a page are scraped before the next page is asked for, and a failing unit
does not stop the listing.  A listing that reaches its last page is cached.  A request that fails
ends the listing with the first fault so far; any other fault ends it at once and stands for it,
also a type that cannot be a name.
-/
import MetricRelay.Scrape.Unit

namespace MetricRelay.Scrape

open Monitoring Exposition

/-- What a listing has met so far. -/
structure Listing where
  /-- The types on the pages so far. -/
  seen : List Json.Key := []
  /-- The descriptors on the pages so far. -/
  listed : List Descriptor := []
  /-- The first fault of a unit so far. -/
  first : Option Fault := none

/-- Lists page after page, starting with the one that a query asks for; `limit` bounds the pages. -/
def listPages (src : Source) (p : Plan) (stem : String) :
    Nat → Query → Listing → Work → Option Fault × Work
  | 0, _, _, w => (some .endless, w)
  | limit + 1, q, l, w =>
    let page := src.descriptors w.asked q
    let w := w.ask q
    match page with
    | .error (.api path problem) => (l.first.orElse fun _ => some (.api path problem), w)
    | .error fault => (some fault, w)
    | .ok page =>
      match keyed page.descriptors with
      | .error fault => (some fault, w)
      | .ok entries =>
        let fresh := (entries.filter fun e => !l.seen.contains e.1).map Prod.snd
        match report src p fresh w with
        | (.error fault, w) => (some fault, w)
        | (.ok fault, w) =>
          let l : Listing :=
            { seen := l.seen ++ entries.map Prod.fst
              listed := l.listed ++ page.descriptors
              first := l.first.orElse fun _ => fault }
          match following? page.nextToken with
          | none => (l.first, { w with cache := w.cache.store (src.clock w.asked) stem l.listed })
          | some token => listPages src p stem limit (q.forPage token) l w

/-- Scrapes the metric types under a prefix. -/
def runPrefix (src : Source) (p : Plan) (stem : String) (w : Work) : Option Fault × Work :=
  match w.cache.lookup (src.clock w.asked) stem with
  | none => listPages src p stem src.limit (descriptorQuery p.collection stem) {} w
  | some ds =>
    match report src p ds w with
    | (.error fault, w) => (some fault, w)
    | (.ok fault, w) => (fault, w)

/-- Scrapes prefixes one after the other; the first fault stands for all. -/
def runPrefixes (src : Source) (p : Plan) : List String → Work → Option Fault × Work
  | [], w => (none, w)
  | stem :: stems, w =>
    let (fault, w) := runPrefix src p stem w
    let (later, w) := runPrefixes src p stems w
    (fault.orElse fun _ => later, w)

/-- One scrape of everything that a plan collects. -/
def run (src : Source) (p : Plan) (w : Work) : Option Fault × Work :=
  runPrefixes src p p.collection.prefixes w

end MetricRelay.Scrape
