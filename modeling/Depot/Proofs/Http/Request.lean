import Depot.Http.Request

/-!
# Requests, field by field

What each way to make a request says about its fields, and that adding to one field leaves the others as
they are.
-/

namespace Depot.Request

variable (r : Request) (path url method key value : String) (pairs : List (String × String))
  (body : Body)

/-! ### Requests without anything else -/

@[simp] theorem method_get : (get path).method = "GET" := rfl
@[simp] theorem target_get : (get path).target = .path path := rfl
@[simp] theorem query_get : (get path).query = [] := rfl

@[simp] theorem method_post : (post path).method = "POST" := rfl
@[simp] theorem target_post : (post path).target = .path path := rfl
@[simp] theorem query_post : (post path).query = [] := rfl

@[simp] theorem method_put : (put path).method = "PUT" := rfl
@[simp] theorem target_put : (put path).target = .path path := rfl
@[simp] theorem query_put : (put path).query = [] := rfl

@[simp] theorem method_absolute : (absolute method url).method = method := rfl
@[simp] theorem target_absolute : (absolute method url).target = .url url := rfl

@[simp] theorem method_delete : (delete path).method = "DELETE" := rfl
@[simp] theorem target_delete : (delete path).target = .path path := rfl

/-! ### Adding to a request -/

@[simp] theorem method_withQuery : (r.withQuery key value).method = r.method := rfl
@[simp] theorem target_withQuery : (r.withQuery key value).target = r.target := rfl
@[simp] theorem query_withQuery : (r.withQuery key value).query = r.query ++ [(key, value)] := rfl

@[simp] theorem method_withQueryPairs : (r.withQueryPairs pairs).method = r.method := rfl
@[simp] theorem target_withQueryPairs : (r.withQueryPairs pairs).target = r.target := rfl
@[simp] theorem query_withQueryPairs : (r.withQueryPairs pairs).query = r.query ++ pairs := rfl

@[simp] theorem method_withBody : (r.withBody body).method = r.method := rfl
@[simp] theorem target_withBody : (r.withBody body).target = r.target := rfl
@[simp] theorem query_withBody : (r.withBody body).query = r.query := rfl
@[simp] theorem body_withBody : (r.withBody body).body = body := rfl

@[simp] theorem method_withProgress : r.withProgress.method = r.method := rfl
@[simp] theorem target_withProgress : r.withProgress.target = r.target := rfl
@[simp] theorem query_withProgress : r.withProgress.query = r.query := rfl
@[simp] theorem body_withProgress : r.withProgress.body = r.body := rfl

end Depot.Request
