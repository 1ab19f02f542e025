import ClaudeCodeProxy.Services.Collaborators

namespace ClaudeCodeProxy.CacheInvalidationService

def invalidateUserCache (userId : String) : Service Unit :=
  call (.InvalidateUser userId)

end ClaudeCodeProxy.CacheInvalidationService
